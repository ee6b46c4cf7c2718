import Unmask.Alias.Namer
import Unmask.Ruling
import Unmask.Settings
import Unmask.Survey
/-!
# Profiles

A profile is settings in which nothing is wrong. It says for each mode which rules apply, in which
order, and how aliases are made, and it turns `auto` into the mode that a survey recommends.

| | base | whitelist | domains | resources | collision | words | pattern | entropy | length |
|---|---|---|---|---|---|---|---|---|---|
| conservative | x | x | x | x | x | x | x | | |
| balanced | x | x | x | x | x | | | | x |
| enhanced | x | x | x | x | x | x | x | x | x |
| aggressive | x | | | x | x | | x | x | x |
-/

namespace Unmask

/-- Settings in which nothing is wrong. -/
structure Profile where
  settings : Settings
  valid : settings.Valid

namespace Profile

/-- The profile of settings, or the first thing that is wrong with them. -/
def ofSettings (s : Settings) : Except Fault Profile :=
  match h : s.fault? with
  | none => .ok ⟨s, h⟩
  | some cause => .error (.invalidSettings cause)

/-- The profile that suits a mode. -/
def preset : Mode → Profile
  | .conservative => ⟨Settings.conservative, Settings.valid_conservative⟩
  | .aggressive => ⟨Settings.aggressive, Settings.valid_aggressive⟩
  | _ => ⟨{}, Settings.valid_default⟩

/-! ## What a mode uses -/

/-- The rules of a mode, before they know the symbols. -/
def rules (p : Profile) (m : Mode) : Rules :=
  let whitelist := Rule.whitelist (Whitelist.ofEntries p.settings.whitelist)
  let pattern := Rule.pattern p.settings.classifier
  let entropy := Rule.entropy p.settings.classifier
  let length := Rule.length p.settings.minLength p.settings.maxLength
  match m with
  | .disabled | .auto => []
  | .conservative =>
    [.base, whitelist, .topLevelDomain, .resourceClass, .collision [], .commonWords, pattern]
  | .balanced => [.base, whitelist, .topLevelDomain, .resourceClass, .collision [], length]
  | .enhanced =>
    [.base, whitelist, .topLevelDomain, .resourceClass, .collision [], .commonWords, pattern, entropy,
      length]
  | .aggressive => [.base, .resourceClass, .collision [], pattern, entropy, length]

/-- The rules of a mode that works by itself. -/
def rules? (p : Profile) (m : Mode) : Option Rules :=
  match m with
  | .disabled | .auto => none
  | .conservative | .balanced | .enhanced | .aggressive => some (p.rules m)

/-- How a mode makes aliases. Hints of the old name are left out in the aggressive mode. -/
def style (p : Profile) (m : Mode) : Style :=
  match m with
  | .enhanced | .aggressive =>
    if p.settings.descriptiveNames then
      .descriptive {
        rolePrefixes := p.settings.rolePrefixes
        frameworkBases := p.settings.frameworkBases
        semanticTags := p.settings.semanticTags
        keepHint := p.settings.keepHint && m != .aggressive }
    else .plain
  | _ => .plain

/-- The fresh namer of a mode that works by itself. -/
def namer? (p : Profile) (m : Mode) : Option Namer :=
  match m with
  | .disabled | .auto => none
  | .conservative | .balanced | .enhanced | .aggressive =>
    some {
      style := p.style m
      maxLength := p.settings.maxLength
      counters := p.settings.initialIndex
      registry := { separator := p.settings.separator } }

/-- The survey of a program by the profile's own classifier. -/
def survey (p : Profile) (set : SymbolSet) : Logged Survey := Survey.ofSet p.settings.classifier set

/-- The mode that is meant: `auto` means the one that a survey recommends. -/
def resolve (p : Profile) (m : Mode) (set : SymbolSet) : Logged Mode :=
  if m = .auto then do
    let survey ← p.survey set
    Logged.write .info "Auto-detecting deobfuscation mode..."
    match survey.tool with
    | some tool => Logged.write .info ("Detected obfuscator: " ++ tool.title)
    | none => pure ()
    Logged.write .info
      ("Overall obfuscation rate " ++ Survey.percentText survey.overallRate ++ ", using " ++
        survey.recommended.id ++ " mode")
    pure survey.recommended
  else pure m

/-! ## Descriptions -/

/-- What a description says about the rules of a mode, line by line. -/
def ruleLines (p : Profile) (m : Mode) : List String :=
  match m with
  | .disabled => ["No conditions (disabled)"]
  | .auto => ["Automatically selected based on codebase analysis"]
  | _ => (p.rules m).map Rule.label

/-- What a description says about the aliases of a mode. -/
def namerLine (p : Profile) (m : Mode) : String :=
  match p.namer? m with
  | none => if m = .auto then "Chosen with the resolved mode" else "None"
  | some namer =>
    match namer.style with
    | .descriptive _ => "Enhanced (semantic naming, type-aware)"
    | .plain => "Default (index-based naming)"

/-- A mode as this profile runs it, in several lines. -/
def describe (p : Profile) (m : Mode) : String :=
  "Mode: " ++ m.id ++ "\nDescription: " ++ m.description ++ "\n\nConditions used:\n" ++
  String.join ((p.ruleLines m).map fun line => "  - " ++ line ++ "\n") ++
  "\nAlias provider: " ++ p.namerLine m ++ "\n"

end Profile

end Unmask
