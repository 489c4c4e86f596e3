import PeerNet.Text.Quoted

/-!
# What can go wrong with a configuration

A setting can be missing, of a wrong type, or refused with a message; a file can be unreadable as
text of its format, or not be found at all. The description of a wrong type names what was found,
what was expected, the setting and the place it came from, as far as they are known.
-/

namespace PeerNet.Config

/-- Why a configuration could not be used. -/
inductive Fault where
  /-- A setting is missing. -/
  | missing (key : String)
  /-- A setting is refused with a message. -/
  | refused (text : String)
  /-- A setting has a wrong type. -/
  | wrongType (found expected : String) (key origin : Option String)
  /-- The file is no text of its format. -/
  | unreadable
  /-- There is no such file, or its format is unknown. -/
  | unavailable
  deriving DecidableEq, Repr

/-- The description of a fault. Of a malformed or missing file it says no more than that. -/
def Fault.message : Fault → String
  | .missing key => s!"configuration property {Quoted.quote key} not found"
  | .refused text => text
  | .wrongType found expected key origin =>
    let forKey := match key with
      | some key => s!" for key `{key}`"
      | none => ""
    let fromOrigin := match origin with
      | some origin => s!" in {origin}"
      | none => ""
    s!"invalid type: {found}, expected {expected}{forKey}{fromOrigin}"
  | .unreadable => "configuration file is malformed"
  | .unavailable => "configuration file not found"

end PeerNet.Config
