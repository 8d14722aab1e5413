import LogPipeline.Json.Record
import LogPipeline.Settings.Basic

namespace LogPipeline

open Json

def SettingKind.toJson : (kind : SettingKind) → kind.Value → Json
  | .text, s => .str s
  | .flag, b => .bool b
  | .word16, n => .int n.toNat
  | .word32, n => ofUInt32 n
  | .word64, n => ofUInt64 n

namespace Settings

def membersOf (s : Settings) (xs : List Setting) : Json :=
  .obj (xs.map fun x => (x.name, x.kind.toJson (x.get s)))

def toJson (s : Settings) : Json :=
  .obj (Setting.groups.map fun g => (g.1, s.membersOf g.2))

end Settings

end LogPipeline
