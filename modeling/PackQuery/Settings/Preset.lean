import PackQuery.Settings.Basic

/-!
# Presets

Named settings for common uses. A name is read without regard to case, and some presets have a
second name.
-/

namespace PackQuery

/-- A named choice of settings. -/
inductive Preset where
  /-- The default settings. -/
  | default
  /-- Open ranges end before the next major version. -/
  | compatible
  /-- Comparing two versions disregards case. -/
  | lenient
deriving DecidableEq, Repr

namespace Preset

/-- All presets. -/
def all : List Preset := [default, compatible, lenient]

/-- The name of a preset. -/
def name : Preset → String
  | default => "default"
  | compatible => "compatible"
  | lenient => "lenient"

/-- The names by which a preset can be asked for. -/
def names : Preset → List String
  | default => ["default"]
  | compatible => ["compatible", "semver"]
  | lenient => ["lenient", "loose"]

/-- The preset of a name. Only ASCII letters have a lower-case form that occurs in a name, but for
the Kelvin sign, whose lower-case `k` occurs in none. -/
def ofName? (s : String) : Option Preset :=
  let lower := String.ofList (s.toList.map Char.toLower)
  all.find? fun p => p.names.contains lower

/-- What a preset does, in one sentence. -/
def description : Preset → String
  | default => "Case-sensitive compare, open ranges accept any newer version"
  | compatible => "Open version ranges stop at the next major version"
  | lenient => "The compare command ignores case in version segments"

/-- The settings of a preset. -/
def settings : Preset → Settings
  | default => {}
  | compatible => { matching := { compatible := true } }
  | lenient => { matching := { caseSensitive := false } }

end Preset

end PackQuery
