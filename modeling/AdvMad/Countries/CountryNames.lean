import AdvMad.Countries.Screens

/-!
# countries: where the names come from

A country name reaches the app with the bundled list or through the add form.
No step of the screens, however often the app is ended and launched, makes up
another one or lets an empty text through.
-/

namespace AdvMad.Countries

open AdvMad.Foundation
open AdvMad.Shared

variable {β : Type}

namespace Screens

structure NamesIn (codec : PlistCodec ContinentsDataModel β) (P : String → Prop)
    (s : Screens β) : Prop where
  live : ∀ app, s.device.app = some app → ∀ controller ∈ app.live,
    StoredNames countryList P controller.allData
  saved : ∀ last, s.device.stored codec = some last → StoredNames countryList P last
  shown : ∀ detail, s.detail = some detail → ∀ name ∈ detail.countryList, P name
  form : ∀ addedCountry, s.addedCountry = some addedCountry → addedCountry ≠ "" → P addedCountry

def SavesIn (P : String → Prop) (_ : Screens β) (event : ScreenEvent) : Prop :=
  ∀ text, event = .unwindSegue (some "save") text → text ≠ "" → P text

section
variable {codec : PlistCodec ContinentsDataModel β} {P : String → Prop} {s s' : Screens β}

theorem stored_of_dataOf {app : RunningApp} {allData : List ContinentsDataModel} {id : Nat}
    (h : ∀ controller ∈ app.live, StoredNames countryList P controller.allData)
    (hdata : app.dataOf id = some allData) : StoredNames countryList P allData := by
  obtain ⟨controller, hcontroller, rfl⟩ := Option.map_eq_some_iff.mp hdata
  exact h controller (List.mem_of_find?_eq_some hcontroller)

theorem stored_setData {app : RunningApp} {allData : List ContinentsDataModel} {id : Nat}
    (h : ∀ controller ∈ app.live, StoredNames countryList P controller.allData)
    (hdata : StoredNames countryList P allData) :
    ∀ controller ∈ (app.setData id allData).live,
      StoredNames countryList P controller.allData := by
  intro controller hcontroller
  obtain ⟨before, hbefore, rfl⟩ := List.mem_map.mp hcontroller
  split
  · exact hdata
  · exact h before hbefore

theorem NamesIn.detailVC (h : NamesIn codec P s) {vc : DetailViewController}
    (hvc : s.detailVC = some vc) : AllNames countryList P vc := by
  obtain ⟨detail, hdetail, hvc⟩ := Option.bind_eq_some_iff.mp hvc
  obtain ⟨app, happ, hvc⟩ := Option.bind_eq_some_iff.mp hvc
  obtain ⟨screen, -, hvc⟩ := Option.bind_eq_some_iff.mp hvc
  obtain ⟨allData, hdata, hvc⟩ := Option.bind_eq_some_iff.mp hvc
  cases hvc
  exact ⟨stored_of_dataOf (h.live app happ) hdata, h.shown detail hdetail⟩

theorem NamesIn.onDetail (h : NamesIn codec P s) (event : TableEvent)
    (hadded : ∀ added, event = .unwindSegue (some "save") added → added ≠ "" → P added)
    (hstep : s.onDetail (fun vc => vc.step event) = some s') : NamesIn codec P s' := by
  obtain ⟨detail, hdetail, hstep⟩ := Option.bind_eq_some_iff.mp hstep
  obtain ⟨vc, hvc, hstep⟩ := Option.bind_eq_some_iff.mp hstep
  obtain ⟨vc', hvc', hstep⟩ := Option.bind_eq_some_iff.mp hstep
  obtain ⟨device, hdevice, hs'⟩ := Option.bind_eq_some_iff.mp hstep
  cases hs'
  rw [DetailViewController.step_eq] at hvc'
  have hnames : AllNames countryList P vc' := tableStep_allNames (h.detailVC hvc) hadded hvc'
  obtain ⟨app, happ, hdevice⟩ := Option.bind_eq_some_iff.mp hdevice
  cases hdevice
  refine ⟨fun next hnext => ?_, h.saved, fun found hfound => ?_, h.form⟩
  · cases hnext
    exact stored_setData (h.live app happ) hnames.stored
  · cases hfound
    exact hnames.shown

theorem openDetail_live {app app' : RunningApp} {row : Nat}
    (hopen : app.openDetail row = some app') {controller : LiveController}
    (hcontroller : controller ∈ app'.live) :
    controller ∈ app.live ∨ controller.allData = [] := by
  obtain ⟨title, -, hopen⟩ := Option.bind_eq_some_iff.mp hopen
  cases hopen
  have hlive := (List.mem_filter.mp hcontroller).1
  simp only [RunningApp.instantiateDetail, RunningApp.newController, List.mem_append,
    List.mem_singleton] at hlive
  rcases hlive with hold | rfl
  · exact .inl hold
  · exact .inr rfl

theorem NamesIn.countrySegue (h : NamesIn codec P s) {row : Nat}
    (hstep : s.countrySegue row = some s') : NamesIn codec P s' := by
  obtain ⟨app, happ, hstep⟩ := Option.bind_eq_some_iff.mp hstep
  obtain ⟨title, -, hstep⟩ := Option.bind_eq_some_iff.mp hstep
  obtain ⟨device, hdevice, hstep⟩ := Option.bind_eq_some_iff.mp hstep
  obtain ⟨other, hother, hdevice⟩ := Option.bind_eq_some_iff.mp hdevice
  obtain ⟨app', happ', hdevice⟩ := Option.bind_eq_some_iff.mp hdevice
  cases hdevice
  obtain rfl : app = other := Option.some.inj (happ.symm.trans hother)
  have hopened : NamesIn codec P { s with
      device := { s.device with app := some app' }, detail := some ⟨title, []⟩ } := by
    refine ⟨fun next hnext => ?_, h.saved, fun detail hdetail => ?_, h.form⟩
    · cases hnext
      intro controller hcontroller
      rcases openDetail_live happ' hcontroller with hold | hempty
      · exact h.live app happ controller hold
      · simp [hempty, StoredNames]
    · cases hdetail
      simp
  exact hopened.onDetail .viewWillAppear (by simp) hstep

theorem NamesIn.unwindSegue (h : NamesIn codec P s) {identifier : Option String} {text : String}
    (hsaves : SavesIn P s (.unwindSegue identifier text))
    (hstep : s.unwindSegue identifier text = some s') : NamesIn codec P s' := by
  obtain ⟨addedCountry, hadded, hstep⟩ := Option.bind_eq_some_iff.mp hstep
  have hclosed : NamesIn codec P { s with addedCountry := none } :=
    ⟨h.live, h.saved, h.shown, by simp⟩
  refine hclosed.onDetail (.unwindSegue identifier (prepareForm addedCountry identifier text))
    (fun added hevent hne => ?_) hstep
  simp only [TableEvent.unwindSegue.injEq] at hevent
  obtain ⟨rfl, rfl⟩ := hevent
  by_cases htext : text = ""
  · simp only [prepareForm, htext] at hne ⊢
    exact h.form addedCountry hadded (by simpa using hne)
  · have hform : prepareForm addedCountry (some "save") text = text := by
      simp [prepareForm, htext]
    rw [hform]
    exact hsaves text rfl htext

theorem NamesIn.back (h : NamesIn codec P s) (hstep : s.back = some s') : NamesIn codec P s' := by
  unfold Screens.back at hstep
  split at hstep
  · obtain ⟨device, hdevice, hs'⟩ := Option.bind_eq_some_iff.mp hstep
    cases hs'
    obtain ⟨app, happ, hdevice⟩ := Option.bind_eq_some_iff.mp hdevice
    obtain ⟨app', happ', hdevice⟩ := Option.bind_eq_some_iff.mp hdevice
    cases hdevice
    refine ⟨fun next hnext => ?_, h.saved, by simp, h.form⟩
    cases hnext
    unfold RunningApp.closeDetail at happ'
    split at happ'
    · cases happ'
    · cases happ'
      intro controller hcontroller
      exact h.live app happ controller (List.mem_filter.mp hcontroller).1
  · cases hstep
    exact ⟨h.live, h.saved, h.shown, h.form⟩

theorem NamesIn.willResignActive {bundled : List ContinentsDataModel} (h : NamesIn codec P s)
    (hsaved : Device.Saved codec bundled s.device) {succeeds : Nat → Bool}
    (hstep : step codec s (.willResignActive succeeds) = some s') : NamesIn codec P s' := by
  obtain ⟨device, hdevice, rfl⟩ := Option.map_eq_some_iff.mp hstep
  have hstored := (Device.willResignActive_saved hsaved hdevice).2
  obtain ⟨app, happ, hdevice⟩ := Option.bind_eq_some_iff.mp hdevice
  obtain ⟨files, -, hdevice⟩ := Option.bind_eq_some_iff.mp hdevice
  cases hdevice
  refine ⟨h.live, fun last hlast => ?_, h.shown, h.form⟩
  rw [hstored] at hlast
  simp only [Device.lastSave, happ, Option.bind_eq_bind, Option.bind_some] at hlast
  split at hlast
  · exact stored_of_dataOf (h.live app happ) hlast
  · exact h.saved last hlast

theorem NamesIn.launch {bundled : List ContinentsDataModel} (h : NamesIn codec P s)
    (hsaved : Device.Saved codec bundled s.device)
    (hbundled : StoredNames countryList P bundled)
    (hstep : step codec s .launch = some s') : NamesIn codec P s' := by
  obtain ⟨device, hdevice, rfl⟩ := Option.map_eq_some_iff.mp hstep
  have hload : StoredNames countryList P ((s.device.stored codec).getD bundled) := by
    cases hstored : s.device.stored codec with
    | none => exact hbundled
    | some last => exact h.saved last hstored
  unfold Device.launch at hdevice
  split at hdevice
  · cases hdevice
  · cases hdevice
    refine ⟨fun next hnext => ?_, h.saved, by simp, by simp⟩
    cases hnext
    simp only [RunningApp.viewDidLoad, hsaved.loadData_eq]
    exact stored_setData (by simp [RunningApp.started, RunningApp.newController, StoredNames]) hload

theorem step_names {bundled : List ContinentsDataModel} (h : NamesIn codec P s)
    (hsaved : Device.Saved codec bundled s.device)
    (hbundled : StoredNames countryList P bundled) {event : ScreenEvent}
    (hsaves : SavesIn P s event) (hstep : step codec s event = some s') : NamesIn codec P s' := by
  cases event with
  | launch => exact h.launch hsaved hbundled hstep
  | countrySegue row => exact h.countrySegue hstep
  | continentSegue row =>
      obtain ⟨app, -, hstep⟩ := Option.bind_eq_some_iff.mp hstep
      obtain ⟨continent, -, hstep⟩ := Option.bind_eq_some_iff.mp hstep
      obtain ⟨allData, -, hstep⟩ := Option.bind_eq_some_iff.mp hstep
      obtain ⟨countryList, -, hs'⟩ := Option.bind_eq_some_iff.mp hstep
      cases hs'
      exact ⟨h.live, h.saved, h.shown, h.form⟩
  | viewWillAppear => exact h.onDetail .viewWillAppear (by simp) hstep
  | commit editingStyle row => exact h.onDetail (.commit editingStyle row) (by simp) hstep
  | moveRow fromRow toRow => exact h.onDetail (.moveRow fromRow toRow) (by simp) hstep
  | addSegue =>
      cases hstep
      exact ⟨h.live, h.saved, h.shown, by simp⟩
  | unwindSegue identifier text => exact h.unwindSegue hsaves hstep
  | back => exact h.back hstep
  | willResignActive succeeds => exact h.willResignActive hsaved hstep
  | terminate =>
      obtain ⟨device, hdevice, rfl⟩ := Option.map_eq_some_iff.mp hstep
      obtain ⟨app, -, hdevice⟩ := Option.bind_eq_some_iff.mp hdevice
      cases hdevice
      exact ⟨by simp, h.saved, by simp, by simp⟩

end

def Known (bundled : List ContinentsDataModel) (events : List ScreenEvent)
    (name : String) : Prop :=
  (∃ item ∈ bundled, name ∈ item.countries) ∨
    (name ≠ "" ∧ .unwindSegue (some "save") name ∈ events)

/--
Along every run from a new installation, with any number of launches: every
country name held by a controller, shown on the detail screen or saved in the
file is a name of the bundled list or a non-empty text that was saved in the
form.
-/
theorem country_names_are_known (codec : PlistCodec ContinentsDataModel β)
    (files : FileSystem β) (bundled : List ContinentsDataModel) (events : List ScreenEvent)
    (hinstalled : Installed codec files bundled)
    (hpossible : EveryStep (step codec) Possible (installed files) events) :
    ∃ s, run (step codec) (installed files) events = some s ∧
      (∀ app, s.device.app = some app → ∀ controller ∈ app.live,
        StoredNames countryList (Known bundled events) controller.allData) ∧
      (∀ detail, s.detail = some detail →
        ∀ name ∈ detail.countryList, Known bundled events name) ∧
      ∀ saved, (s.device.files (getDataFile dataFileName)).bind codec.decode = some saved →
        StoredNames countryList (Known bundled events) saved := by
  have hsaves : EveryStep (step codec) (SavesIn (Known bundled events)) (installed files)
      events := by
    refine everyStep_of_forall_mem (fun event hevent s text htext hne => ?_) _
    rw [htext] at hevent
    exact .inr ⟨hne, hevent⟩
  have hbundled : StoredNames countryList (Known bundled events) bundled :=
    fun item hitem name hname => .inl ⟨item, hitem, hname⟩
  have halways : Always (step codec)
      (fun s => Fits codec bundled s ∧ NamesIn codec (Known bundled events) s)
      (installed files) events := by
    refine always_of_step ?_ ⟨installed_fits hinstalled, ?_⟩ (hpossible.and hsaves)
    · intro s event h hevent
      obtain ⟨s', hs', hfits, -⟩ := step_goes h.1 hevent.1
      exact ⟨s', hs', hfits, step_names h.2 h.1.saved hbundled hevent.2 hs'⟩
    · exact ⟨by simp [installed, Device.installed],
        by simp [installed, Device.installed, Device.stored, hinstalled.user],
        by simp [installed], by simp [installed]⟩
  obtain ⟨s, hrun, -, hnames⟩ := halways.final
  exact ⟨s, hrun, hnames.live, hnames.shown, hnames.saved⟩

theorem country_names_are_known_africa :
    let codec := terminatedCodec ContinentsDataModel
    let events : List ScreenEvent :=
      [.launch, .countrySegue 1, .addSegue, .unwindSegue (some "save") "", .addSegue,
        .unwindSegue (some "cancel") "Atlantis", .addSegue, .unwindSegue (some "save") "Egypt",
        .moveRow 0 2, .moveRow 0 1, .willResignActive fun _ => true, .terminate, .launch,
        .countrySegue 1]
    ∃ s, run (step codec) (installed Device.newDevice) events = some s ∧
      (∀ app, s.device.app = some app → ∀ controller ∈ app.live,
        StoredNames countryList (Known Device.bundledContinents events) controller.allData) ∧
      (∀ detail, s.detail = some detail →
        ∀ name ∈ detail.countryList, Known Device.bundledContinents events name) ∧
      ∀ saved, (s.device.files (getDataFile dataFileName)).bind codec.decode = some saved →
        StoredNames countryList (Known Device.bundledContinents events) saved :=
  country_names_are_known _ _ _ _ ⟨by decide, by decide⟩ (by decide)

end Screens

end AdvMad.Countries
