import AdvMad.Foundation.PartialStep

/-!
# music: recording and playing

The screen with the buttons Record, Stop and Play, the same in music and lab1.
The outcomes of the audio calls are part of the events, and the system may
interrupt whatever is on at any moment.  A player that has finished calls its
delegate; `FinishesCurrent` is what is assumed of the moment of this call.
-/

namespace AdvMad.Music

open AdvMad.Foundation

inductive Category where
  | soloAmbient
  | playAndRecord
  | playback
  deriving DecidableEq, Repr

structure AudioRecorder where
  isRecording : Bool
  deriving DecidableEq, Repr

structure AudioPlayer where
  isPlaying : Bool
  deriving DecidableEq, Repr

structure FifthViewController where
  category : Category
  audioPlayer : Option AudioPlayer
  audioRecorder : Option AudioRecorder
  recordEnabled : Bool
  stopEnabled : Bool
  playEnabled : Bool
  deriving DecidableEq, Repr

inductive PlayAttempt where
  | notOpened
  | categoryRefused
  | started (isPlaying : Bool)
  deriving DecidableEq, Repr

/-- Play stays enabled while a player plays, and puts another in its place. -/
inductive FinishedPlayer where
  | current
  | replaced
  deriving DecidableEq, Repr

inductive AudioEvent where
  | recordAudio (started : Bool)
  | playAudio (attempt : PlayAttempt)
  | stopAudio (categorySet : Bool)
  | audioPlayerDidFinishPlaying (player : FinishedPlayer) (categorySet : Bool)
  | interruption
  deriving DecidableEq, Repr

namespace FifthViewController

def stopPlayer (audioPlayer : Option AudioPlayer) : Option AudioPlayer :=
  audioPlayer.map fun _ => ⟨false⟩

def setCategory (vc : FifthViewController) (category : Category) (set : Bool) :
    FifthViewController :=
  if set then { vc with category := category } else vc

/-- The storyboard has all three buttons enabled. -/
def viewDidLoad (categorySet recorderReady : Bool) : FifthViewController :=
  let vc : FifthViewController :=
    { category := .soloAmbient
      audioPlayer := none
      audioRecorder := if recorderReady then some ⟨false⟩ else none
      recordEnabled := true
      stopEnabled := true
      playEnabled := true }
  vc.setCategory .playAndRecord categorySet

def recordAudio (vc : FifthViewController) (started : Bool) : FifthViewController :=
  match vc.audioRecorder with
  | some recorder =>
      if recorder.isRecording = false then
        { vc with
          playEnabled := false
          stopEnabled := true
          audioRecorder := some ⟨started⟩ }
      else vc
  | none => vc

/-- An `AVAudioPlayer` that opens takes the place of the one before, which falls silent. -/
def playAudio (vc : FifthViewController) (attempt : PlayAttempt) : FifthViewController :=
  if vc.audioRecorder.map AudioRecorder.isRecording = some false then
    let vc := { vc with stopEnabled := true, recordEnabled := false }
    match attempt with
    | .notOpened => vc
    | .categoryRefused => { vc with audioPlayer := some ⟨false⟩ }
    | .started isPlaying => { vc with audioPlayer := some ⟨isPlaying⟩, category := .playback }
  else vc

def stopAudio (vc : FifthViewController) (categorySet : Bool) : FifthViewController :=
  let vc := { vc with stopEnabled := false, playEnabled := true, recordEnabled := true }
  if vc.audioRecorder.map AudioRecorder.isRecording = some true then
    { vc with audioRecorder := some ⟨false⟩ }
  else
    setCategory { vc with audioPlayer := stopPlayer vc.audioPlayer } .playAndRecord
      categorySet

def audioPlayerDidFinishPlaying (vc : FifthViewController) (categorySet : Bool) :
    FifthViewController :=
  setCategory
    { vc with
      recordEnabled := true
      stopEnabled := false }
    .playAndRecord categorySet

def playerFinished (vc : FifthViewController) : FifthViewController :=
  { vc with audioPlayer := stopPlayer vc.audioPlayer }

def interruption (vc : FifthViewController) : FifthViewController :=
  { vc with
    audioPlayer := stopPlayer vc.audioPlayer
    audioRecorder := vc.audioRecorder.map fun _ => ⟨false⟩ }

def isRecording (vc : FifthViewController) : Bool :=
  vc.audioRecorder.any AudioRecorder.isRecording

def isPlaying (vc : FifthViewController) : Bool := vc.audioPlayer.any AudioPlayer.isPlaying

/-- A disabled button takes no tap, and only a player that plays finishes.  The call of a
player that was replaced may come at any time. -/
def step (vc : FifthViewController) : AudioEvent → Option FifthViewController
  | .recordAudio started => if vc.recordEnabled then some (vc.recordAudio started) else none
  | .playAudio attempt => if vc.playEnabled then some (vc.playAudio attempt) else none
  | .stopAudio categorySet => if vc.stopEnabled then some (vc.stopAudio categorySet) else none
  | .audioPlayerDidFinishPlaying .current categorySet =>
      if vc.isPlaying then some (vc.playerFinished.audioPlayerDidFinishPlaying categorySet)
      else none
  | .audioPlayerDidFinishPlaying .replaced categorySet =>
      some (vc.audioPlayerDidFinishPlaying categorySet)
  | .interruption => some vc.interruption

/-- A player calls its delegate as it falls silent, and not after it was replaced. -/
def FinishesCurrent (_ : FifthViewController) : AudioEvent → Prop
  | .audioPlayerDidFinishPlaying player _ => player = .current
  | .recordAudio _ | .playAudio _ | .stopAudio _ | .interruption => True

instance (vc : FifthViewController) (event : AudioEvent) :
    Decidable (FinishesCurrent vc event) := by
  cases event <;> unfold FinishesCurrent <;> infer_instance

/-! ## What the buttons promise -/

structure ButtonsFit (vc : FifthViewController) : Prop where
  recording : vc.isRecording = true →
    vc.recordEnabled = true ∧ vc.stopEnabled = true ∧ vc.playEnabled = false
  playing : vc.isPlaying = true →
    vc.recordEnabled = false ∧ vc.stopEnabled = true ∧ vc.playEnabled = true
  stopped : vc.stopEnabled = false → vc.recordEnabled = true ∧ vc.playEnabled = true
  usable : vc.recordEnabled = true ∨ vc.playEnabled = true

theorem viewDidLoad_fit (categorySet recorderReady : Bool) :
    (viewDidLoad categorySet recorderReady).ButtonsFit := by
  constructor <;> cases categorySet <;> cases recorderReady <;>
    simp [viewDidLoad, setCategory, isRecording, isPlaying]

@[simp] theorem setCategory_recordEnabled (vc : FifthViewController) (category : Category)
    (set : Bool) : (vc.setCategory category set).recordEnabled = vc.recordEnabled := by
  cases set <;> rfl

@[simp] theorem setCategory_stopEnabled (vc : FifthViewController) (category : Category)
    (set : Bool) : (vc.setCategory category set).stopEnabled = vc.stopEnabled := by
  cases set <;> rfl

@[simp] theorem setCategory_playEnabled (vc : FifthViewController) (category : Category)
    (set : Bool) : (vc.setCategory category set).playEnabled = vc.playEnabled := by
  cases set <;> rfl

@[simp] theorem setCategory_audioRecorder (vc : FifthViewController) (category : Category)
    (set : Bool) : (vc.setCategory category set).audioRecorder = vc.audioRecorder := by
  cases set <;> rfl

@[simp] theorem setCategory_audioPlayer (vc : FifthViewController) (category : Category)
    (set : Bool) : (vc.setCategory category set).audioPlayer = vc.audioPlayer := by
  cases set <;> rfl

@[simp] theorem any_stopPlayer (audioPlayer : Option AudioPlayer) :
    (stopPlayer audioPlayer).any AudioPlayer.isPlaying = false := by
  cases audioPlayer <;> rfl

theorem recordAudio_cases (vc : FifthViewController) (started : Bool) :
    vc.recordAudio started = vc ∨
      vc.recordAudio started =
        { vc with playEnabled := false, stopEnabled := true, audioRecorder := some ⟨started⟩ } := by
  unfold recordAudio
  split
  · split
    · exact .inr rfl
    · exact .inl rfl
  · exact .inl rfl

theorem playAudio_cases (vc : FifthViewController) (attempt : PlayAttempt) :
    vc.playAudio attempt = vc ∨
      vc.isRecording = false ∧ (vc.playAudio attempt).isRecording = false ∧
        (vc.playAudio attempt).recordEnabled = false ∧
        (vc.playAudio attempt).stopEnabled = true ∧
        (vc.playAudio attempt).playEnabled = vc.playEnabled := by
  unfold playAudio
  split
  · case isTrue hidle =>
      have hsilent : vc.audioRecorder.any AudioRecorder.isRecording = false := by
        obtain ⟨recorder, hrecorder, hrecording⟩ := Option.map_eq_some_iff.mp hidle
        simpa [hrecorder] using hrecording
      refine .inr ⟨hsilent, ?_⟩
      cases attempt with
      | notOpened | categoryRefused | started isPlaying => exact ⟨hsilent, rfl, rfl, rfl⟩
  · exact .inl rfl

theorem stopAudio_spec (vc : FifthViewController) (categorySet : Bool) :
    (vc.stopAudio categorySet).recordEnabled = true ∧
      (vc.stopAudio categorySet).stopEnabled = false ∧
      (vc.stopAudio categorySet).playEnabled = true ∧
      (vc.stopAudio categorySet).isRecording = false ∧
      (vc.stopAudio categorySet).isPlaying = (vc.isRecording && vc.isPlaying) := by
  have hrecorder : (vc.audioRecorder.map AudioRecorder.isRecording = some true) ↔
      vc.isRecording = true := by
    unfold isRecording
    cases vc.audioRecorder <;> simp
  unfold stopAudio
  simp only [hrecorder]
  cases hrecording : vc.isRecording with
  | true => simp [isRecording, isPlaying]
  | false =>
      rw [isRecording] at hrecording
      simp [isRecording, isPlaying, hrecording]

theorem ButtonsFit.recordAudio {vc : FifthViewController} (h : vc.ButtonsFit)
    (henabled : vc.recordEnabled = true) (started : Bool) :
    (vc.recordAudio started).ButtonsFit := by
  rcases recordAudio_cases vc started with hsame | hrecord
  · rwa [hsame]
  · have hsilent : vc.isPlaying ≠ true := by
      intro hplaying
      have hdisabled := (h.playing hplaying).1
      simp [henabled] at hdisabled
    rw [hrecord]
    constructor
    · simp [henabled]
    · exact fun hplaying => absurd hplaying hsilent
    · simp
    · exact .inl henabled

theorem ButtonsFit.playAudio {vc : FifthViewController} (h : vc.ButtonsFit)
    (henabled : vc.playEnabled = true) (attempt : PlayAttempt) :
    (vc.playAudio attempt).ButtonsFit := by
  rcases playAudio_cases vc attempt with hsame | ⟨-, hsilent, hrecord, hstop, hplay⟩
  · rwa [hsame]
  · rw [henabled] at hplay
    constructor <;> simp [hsilent, hrecord, hstop, hplay]

theorem ButtonsFit.not_both {vc : FifthViewController} (h : vc.ButtonsFit) :
    (vc.isRecording && vc.isPlaying) = false := by
  by_contra hboth
  simp only [Bool.not_eq_false, Bool.and_eq_true] at hboth
  have hrecord := (h.recording hboth.1).1
  have hdisabled := (h.playing hboth.2).1
  simp [hrecord] at hdisabled

theorem ButtonsFit.stopAudio {vc : FifthViewController} (h : vc.ButtonsFit)
    (categorySet : Bool) : (vc.stopAudio categorySet).ButtonsFit := by
  obtain ⟨hrecord, hstop, hplay, hrecording, hplaying⟩ := stopAudio_spec vc categorySet
  rw [h.not_both] at hplaying
  constructor <;> simp [hrecord, hplay, hrecording, hplaying]

theorem ButtonsFit.audioPlayerDidFinishPlaying {vc : FifthViewController} (h : vc.ButtonsFit)
    (hplaying : vc.isPlaying = true) (categorySet : Bool) :
    (vc.playerFinished.audioPlayerDidFinishPlaying categorySet).ButtonsFit := by
  have hplay := (h.playing hplaying).2.2
  have hsilent : vc.isRecording = false := by
    have hboth := h.not_both
    rwa [hplaying, Bool.and_true] at hboth
  rw [isRecording] at hsilent
  constructor <;>
    simp [FifthViewController.audioPlayerDidFinishPlaying, playerFinished, isRecording,
      isPlaying, hsilent, hplay]

theorem ButtonsFit.interruption {vc : FifthViewController} (h : vc.ButtonsFit) :
    vc.interruption.ButtonsFit := by
  have hsilent : (vc.audioRecorder.map fun _ => AudioRecorder.mk false).any
      AudioRecorder.isRecording = false := by
    cases vc.audioRecorder <;> rfl
  constructor
  · simp [FifthViewController.interruption, isRecording, hsilent]
  · simp [FifthViewController.interruption, isPlaying]
  · exact h.stopped
  · exact h.usable

theorem step_fit {vc vc' : FifthViewController} {event : AudioEvent} (h : vc.ButtonsFit)
    (hfinish : FinishesCurrent vc event) (hstep : step vc event = some vc') :
    vc'.ButtonsFit := by
  cases event with
  | recordAudio started =>
      obtain ⟨henabled, hvc'⟩ := Option.ite_none_right_eq_some.mp hstep
      cases hvc'
      exact h.recordAudio henabled started
  | playAudio attempt =>
      obtain ⟨henabled, hvc'⟩ := Option.ite_none_right_eq_some.mp hstep
      cases hvc'
      exact h.playAudio henabled attempt
  | stopAudio categorySet =>
      obtain ⟨-, hvc'⟩ := Option.ite_none_right_eq_some.mp hstep
      cases hvc'
      exact h.stopAudio categorySet
  | audioPlayerDidFinishPlaying player categorySet =>
      cases hfinish
      obtain ⟨hplaying, hvc'⟩ := Option.ite_none_right_eq_some.mp hstep
      cases hvc'
      exact h.audioPlayerDidFinishPlaying hplaying categorySet
  | interruption =>
      cases hstep
      exact h.interruption

/--
Whatever is tapped and however the audio calls end, the screen never records
and plays at once, whatever is on can be stopped, and a disabled Record or Play
comes back with Stop, after which nothing is on.
-/
theorem buttons_fit (categorySet recorderReady : Bool) (events : List AudioEvent)
    (vc : FifthViewController)
    (hrun : run step (viewDidLoad categorySet recorderReady) events = some vc)
    (hfinish : EveryStep step FinishesCurrent (viewDidLoad categorySet recorderReady) events) :
    ¬ (vc.isRecording = true ∧ vc.isPlaying = true) ∧
      (vc.isRecording = true → vc.playEnabled = false ∧ vc.stopEnabled = true) ∧
      (vc.isPlaying = true → vc.recordEnabled = false ∧ vc.stopEnabled = true) ∧
      (vc.recordEnabled = false ∨ vc.playEnabled = false →
        ∀ set, ∃ stopped, step vc (.stopAudio set) = some stopped ∧
          stopped.recordEnabled = true ∧ stopped.playEnabled = true ∧
          stopped.isRecording = false ∧ stopped.isPlaying = false) := by
  have h : vc.ButtonsFit := inv_of_run (fun _ _ _ => step_fit)
    (viewDidLoad_fit categorySet recorderReady) hfinish hrun
  refine ⟨?_, ?_, ?_, ?_⟩
  · simpa using h.not_both
  · exact fun hrecording => ⟨(h.recording hrecording).2.2, (h.recording hrecording).2.1⟩
  · exact fun hplaying => ⟨(h.playing hplaying).1, (h.playing hplaying).2.1⟩
  · intro hdisabled set
    have hstop : vc.stopEnabled = true := by
      by_contra hoff
      have hboth := h.stopped (by simpa using hoff)
      simp [hboth] at hdisabled
    obtain ⟨hrecord, -, hplay, hrecording, hplaying⟩ := stopAudio_spec vc set
    rw [h.not_both] at hplaying
    exact ⟨vc.stopAudio set, by simp [step, hstop], hrecord, hplay, hrecording, hplaying⟩

theorem buttons_fit_refused :
    let vc : FifthViewController :=
      ⟨.playback, some ⟨false⟩, some ⟨false⟩, false, true, true⟩
    ¬ (vc.isRecording = true ∧ vc.isPlaying = true) ∧
      (vc.isRecording = true → vc.playEnabled = false ∧ vc.stopEnabled = true) ∧
      (vc.isPlaying = true → vc.recordEnabled = false ∧ vc.stopEnabled = true) ∧
      (vc.recordEnabled = false ∨ vc.playEnabled = false →
        ∀ set, ∃ stopped, step vc (.stopAudio set) = some stopped ∧
          stopped.recordEnabled = true ∧ stopped.playEnabled = true ∧
          stopped.isRecording = false ∧ stopped.isPlaying = false) :=
  buttons_fit true true
    [.recordAudio true, .interruption, .stopAudio true, .playAudio (.started true),
      .playAudio .categoryRefused] _ (by decide) (by decide)

/-! ## The audio session -/

def CategoryGranted (_ : FifthViewController) : AudioEvent → Prop
  | .stopAudio categorySet | .audioPlayerDidFinishPlaying _ categorySet => categorySet = true
  | .playAudio attempt => attempt ≠ .categoryRefused
  | .recordAudio _ | .interruption => True

instance (vc : FifthViewController) (event : AudioEvent) :
    Decidable (CategoryGranted vc event) := by
  cases event <;> unfold CategoryGranted <;> infer_instance

structure CategoryFits (vc : FifthViewController) : Prop where
  buttons : vc.ButtonsFit
  record : vc.recordEnabled = true → vc.category = .playAndRecord
  playing : vc.isPlaying = true → vc.category = .playback

theorem category_playAudio {vc : FifthViewController} (h : vc.CategoryFits)
    {attempt : PlayAttempt} (hgranted : attempt ≠ .categoryRefused)
    (hplaying : (vc.playAudio attempt).isPlaying = true) :
    (vc.playAudio attempt).category = .playback := by
  unfold playAudio at hplaying ⊢
  split at hplaying
  · case isTrue hidle =>
      rw [if_pos hidle]
      cases attempt with
      | notOpened => exact h.playing hplaying
      | categoryRefused => exact absurd rfl hgranted
      | started isPlaying => rfl
  · case isFalse hbusy =>
      rw [if_neg hbusy]
      exact h.playing hplaying

theorem category_stopAudio {vc : FifthViewController} (h : vc.CategoryFits) :
    (vc.stopAudio true).category = .playAndRecord := by
  unfold stopAudio
  simp only
  split
  · case isTrue hrecorder =>
      obtain ⟨recorder, hsome, hrecording⟩ := Option.map_eq_some_iff.mp hrecorder
      have hon : vc.isRecording = true := by simp [isRecording, hsome, hrecording]
      exact h.record (h.buttons.recording hon).1
  · rfl

theorem step_category {vc vc' : FifthViewController} {event : AudioEvent}
    (h : vc.CategoryFits) (hevent : FinishesCurrent vc event ∧ CategoryGranted vc event)
    (hstep : step vc event = some vc') : vc'.CategoryFits := by
  obtain ⟨hfinish, hgranted⟩ := hevent
  have hbuttons := step_fit h.buttons hfinish hstep
  cases event with
  | recordAudio started =>
      obtain ⟨-, hvc'⟩ := Option.ite_none_right_eq_some.mp hstep
      cases hvc'
      rcases recordAudio_cases vc started with hsame | hrecord
      · rwa [hsame]
      · rw [hrecord] at hbuttons ⊢
        exact ⟨hbuttons, h.record, h.playing⟩
  | playAudio attempt =>
      obtain ⟨-, hvc'⟩ := Option.ite_none_right_eq_some.mp hstep
      cases hvc'
      rcases playAudio_cases vc attempt with hsame | ⟨-, -, hrecord, -⟩
      · rwa [hsame]
      · refine ⟨hbuttons, fun henabled => ?_, category_playAudio h hgranted⟩
        simp [hrecord] at henabled
  | stopAudio categorySet =>
      obtain ⟨-, hvc'⟩ := Option.ite_none_right_eq_some.mp hstep
      cases hvc'
      cases hgranted
      refine ⟨hbuttons, fun _ => category_stopAudio h, fun hplaying => ?_⟩
      rw [(stopAudio_spec vc true).2.2.2.2, h.buttons.not_both] at hplaying
      cases hplaying
  | audioPlayerDidFinishPlaying player categorySet =>
      cases hfinish
      obtain ⟨-, hvc'⟩ := Option.ite_none_right_eq_some.mp hstep
      cases hvc'
      cases hgranted
      refine ⟨hbuttons, fun _ => rfl, fun hplaying => ?_⟩
      simp [audioPlayerDidFinishPlaying, playerFinished, isPlaying] at hplaying
  | interruption =>
      cases hstep
      refine ⟨hbuttons, h.record, fun hplaying => ?_⟩
      simp [interruption, isPlaying] at hplaying

/--
As long as the session takes the categories it is given, every recording is
made in the category for recording and everything is played in the loud one.
-/
theorem category_fits (recorderReady : Bool) (events : List AudioEvent)
    (vc : FifthViewController)
    (hrun : run step (viewDidLoad true recorderReady) events = some vc)
    (hfinish : EveryStep step FinishesCurrent (viewDidLoad true recorderReady) events)
    (hgranted : EveryStep step CategoryGranted (viewDidLoad true recorderReady) events) :
    (vc.isRecording = true → vc.category = .playAndRecord) ∧
      (vc.isPlaying = true → vc.category = .playback) := by
  have hstart : (viewDidLoad true recorderReady).CategoryFits :=
    ⟨viewDidLoad_fit true recorderReady, fun _ => rfl, by simp [viewDidLoad, isPlaying]⟩
  have h : vc.CategoryFits :=
    inv_of_run (fun _ _ _ => step_category) hstart (hfinish.and hgranted) hrun
  exact ⟨fun hrecording => h.record (h.buttons.recording hrecording).1, h.playing⟩

theorem category_fits_replayed :
    let vc : FifthViewController :=
      ⟨.playAndRecord, some ⟨false⟩, some ⟨true⟩, true, true, false⟩
    (vc.isRecording = true → vc.category = .playAndRecord) ∧
      (vc.isPlaying = true → vc.category = .playback) :=
  category_fits true
    [.recordAudio true, .stopAudio true, .playAudio (.started true),
      .audioPlayerDidFinishPlaying .current true, .recordAudio true]
    _ (by decide) (by decide) (by decide)

end FifthViewController

end AdvMad.Music
