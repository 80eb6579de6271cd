import Almanac.Files
import Almanac.Settings

/-!
# Almanac.Settings.Loading

Settings in a file.  The file has to be text as a whole before any of it is looked at.
-/

namespace Almanac.Settings

/-- The text that a stream delivers. -/
def textOf (source : Source) : Except Failure String :=
  match source.failure, String.fromUTF8? source.bytes with
  | some failure, _ => .error failure
  | none, none => .error .notText
  | none, some text => .ok text

/-- The settings in a file; without a path all fields keep their defaults. -/
def load {π : Type} {m : Type → Type} [Path π] [Monad m] [Files π m] [Format] :
    Option π → m (Except Fault Settings)
  | none => pure (.ok standard)
  | some path => do
    let text := (← Files.fetch path) >>= textOf
    pure (text.mapError (.unreadable (Path.display path)) >>= parse)

end Almanac.Settings
