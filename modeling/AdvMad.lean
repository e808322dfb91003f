import AdvMad.Foundation.PartialStep
import AdvMad.Foundation.History
import AdvMad.Foundation.Interleaving
import AdvMad.Foundation.ArrayOps
import AdvMad.Foundation.SortBy
import AdvMad.Foundation.KeyedRows
import AdvMad.Foundation.PercentEncoding
import AdvMad.Foundation.LiveData
import AdvMad.Foundation.Backend
import AdvMad.Foundation.Replicas
import AdvMad.Shared.TableEditor
import AdvMad.Shared.PlistFile
import AdvMad.Shared.StateSearch
import AdvMad.Shared.DependentPickers
import AdvMad.Shared.AppDatabase
import AdvMad.Shared.DatabaseCalls
import AdvMad.Lab2New.States
import AdvMad.Lab2New.DetailViewController
import AdvMad.Lab2New.Sessions
import AdvMad.Countries.Continents
import AdvMad.Countries.DetailViewController
import AdvMad.Countries.Sessions
import AdvMad.Countries.LiveControllers
import AdvMad.Countries.Screens
import AdvMad.Countries.CountryNames
import AdvMad.Lab4.ViewController
import AdvMad.Campsites.ViewController
import AdvMad.Lab1.ThirdViewController
import AdvMad.Music.ThirdViewController
import AdvMad.Music.FifthViewController
import AdvMad.Miles.Timestamp
import AdvMad.Miles.RunDataController
import AdvMad.Miles.RunTable
import AdvMad.Miles.AddRun
import AdvMad.Miles.Devices
import AdvMad.Translator.Request
import AdvMad.Translator.ViewController
import AdvMad.Translator.Sessions
import AdvMad.Lab6.Alert
import AdvMad.Lab6.FavoriteRepository
import AdvMad.Lab6.Coroutines
import AdvMad.Lab6.Lookups
import AdvMad.Lab8.Alert
import AdvMad.Lab8.FavoriteRepository
import AdvMad.Lab8.Membership
import AdvMad.Lab8.Codec
import AdvMad.Lab8.Devices
import AdvMad.Lab8.SearchResults
import AdvMad.Lab8.OverlappingSearches
import AdvMad.Lab8.SearchScreens
import AdvMad.Lab8.AlertDetail
