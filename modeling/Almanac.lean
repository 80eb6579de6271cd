import Almanac.FileStore
import Almanac.Main
import Almanac.Proofs.DayNumber
import Almanac.Proofs.StampReading
import Almanac.Proofs.Verification
import Almanac.Proofs.DayCount
import Almanac.Proofs.ScheduleDomain
import Almanac.Proofs.Delivery
import Almanac.Proofs.FileAccess
import Almanac.Proofs.Configuration
import Almanac.Proofs.CivilOrder
import Almanac.Proofs.Stream
import Almanac.Proofs.OrdinalDay
import Almanac.Proofs.DailyWalk
import Almanac.Proofs.Midnight
import Almanac.Proofs.LineFault
import Almanac.Proofs.Rejection
import Almanac.Proofs.LostEntries
import Almanac.Proofs.SettingsDomain
import Almanac.Proofs.WeekdayFormula
import Almanac.Proofs.StampOrder
import Almanac.Proofs.NewYear
import Almanac.Proofs.Word
import Almanac.Proofs.WordCalendar
import Almanac.Proofs.Shape
