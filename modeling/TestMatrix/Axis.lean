import TestMatrix.Decimal.Layout
import TestMatrix.Dictionary

/-!
# Axes and their settings

An `Axis` is a dimension of the test matrix with a fixed list of settings, such as the versions of a
server. A `Setting` is named by its token; its weight says how often it is drawn, its title is what
job names show, and its attributes carry what else is known of it. `Axis.check` says what is wrong
with an axis, if anything is.
-/

namespace TestMatrix

/-- A value that an axis can take. -/
structure Setting where
  /-- The name of the setting, which is what the matrix holds. -/
  token : String
  /-- The title in job names, if it is not left to the axis; an empty one hides the setting. -/
  title : Option String := none
  /-- The relative frequency of the setting. -/
  weight : Float := 1
  /-- What else is known of the setting. -/
  attributes : Dictionary String := []
deriving Inhabited

/-- The attribute of the given name. -/
def Setting.attribute? (s : Setting) (key : String) : Option String := s.attributes.valueOf? key

/-- A dimension of the matrix. -/
structure Axis where
  /-- The name of the axis. -/
  name : String
  /-- The values that the axis can take, in the order in which they are listed. -/
  settings : List Setting
  /-- The title of settings that have none of their own; the token if there is no such rule. -/
  titleRule : Option (Setting → String) := none

instance : Inhabited Axis := ⟨{ name := "", settings := [] }⟩

namespace Axis

/-- The setting with the given token. -/
def setting? (a : Axis) (token : String) : Option Setting := a.settings.find? (·.token == token)

/-- The tokens of the settings in order. -/
def tokens (a : Axis) : List String := a.settings.map (·.token)

/-- What job names show for a setting: its own title, what the axis makes of it, or its token. -/
def titleFor (a : Axis) (s : Setting) : String :=
  match s.title, a.titleRule with
  | some title, _ => title
  | none, some rule => rule s
  | none, none => s.token

end Axis

/-! ## Registration errors -/

/-- Why an axis, a constraint or a name pattern is refused. -/
inductive ConfigError where
  /-- The axis has no name. -/
  | unnamedAxis
  /-- There is an axis of that name already. -/
  | repeatedAxis (axis : String)
  /-- The axis has no settings. -/
  | noSettings (axis : String)
  /-- Two settings of the axis have the same token. -/
  | repeatedToken (axis token : String)
  /-- The weight of a setting is not a positive finite number. -/
  | badWeight (axis token : String) (weight : Float)
  /-- There is no axis of a name that is referred to. -/
  | unknownAxis (axis context : String)
  /-- An exclusion names no axis. -/
  | emptySelector (context : String)
  /-- The axis comes after the first row. -/
  | lateAxis (axis : String)

/-- The wording of the error. -/
def ConfigError.message : ConfigError → String
  | .unnamedAxis => "axis name must not be empty"
  | .repeatedAxis axis => "axis `" ++ axis ++ "` is already registered"
  | .noSettings axis => "axis `" ++ axis ++ "` has no values"
  | .repeatedToken axis token =>
    "axis `" ++ axis ++ "` lists value `" ++ token ++ "` more than once"
  | .badWeight axis token weight =>
    "axis `" ++ axis ++ "` value `" ++ token ++ "` has weight " ++ Decimal.plainText weight
      ++ "; weights must be positive and finite"
  | .unknownAxis axis context => context ++ " references unknown axis `" ++ axis ++ "`"
  | .emptySelector context => context ++ " has an empty selector and would exclude every row"
  | .lateAxis axis => "axis `" ++ axis ++ "` registered after rows were generated"

/-! ## Checking an axis -/

/-- Whether a setting can be drawn with this weight. -/
def validWeight (weight : Float) : Bool := weight.isFinite && 0 < weight

/-- What is wrong with the settings that follow those with the tokens `before`. The first setting at
fault decides, and a repeated token is a fault before a bad weight is. -/
def Axis.checkSettings (axis : String) (before : List String) :
    List Setting → Except ConfigError Unit
  | [] => .ok ()
  | s :: rest =>
    if before.contains s.token then .error (.repeatedToken axis s.token)
    else if !validWeight s.weight then .error (.badWeight axis s.token s.weight)
    else checkSettings axis (s.token :: before) rest

/-- What is wrong with an axis by itself. -/
def Axis.check (a : Axis) : Except ConfigError Unit :=
  if a.name.isEmpty then .error .unnamedAxis
  else if a.settings.isEmpty then .error (.noSettings a.name)
  else checkSettings a.name [] a.settings

end TestMatrix
