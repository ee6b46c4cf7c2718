import Unmask.SymbolSet
import Unmask.Text.Case
/-!
# Roles

What the declaration of a class, a field or a method tells about its use, as the short marks that
descriptive aliases carry.
-/

namespace Unmask.Alias

/-- The entry of a table whose key stands somewhere in the name. -/
def lookupMarker (table : List (String × String)) (name : String) : Option String :=
  (table.find? fun row => Text.hasPart row.1.toList name.toList).map (·.2)

/-! ## Classes -/

/-- The marks of interfaces that say how a class is used. -/
def interfaceTags : List (String × String) := [
  ("Serializable", "Ser"), ("Parcelable", "Parcel"), ("Comparable", "Cmp"), ("Cloneable", "Clone"),
  ("Iterable", "Iter"), ("Collection", "Coll")]

/-- Whether a method's name has a word in it, in whatever case. -/
def mentions (m : MethodDecl) (word : String) : Bool :=
  Text.hasPart word.toList (Text.lowercase m.name.toList)

/-- Whether the class hands out its only instance: constructors are private, and a static field or a
static method gives access. -/
def isSingleton (c : ClassDecl) : Bool :=
  c.methods.any (fun m => m.isConstructor && m.access.isPrivate) &&
    (c.fields.any (fun f => f.access.isStatic && f.type.any (·.isNamed c.fullName)) ||
      c.methods.any fun m => m.access.isStatic && mentions m "instance")

/-- Whether the class is set up step by step: three methods give the builder back, and one ends the
work. -/
def isBuilder (c : ClassDecl) : Bool :=
  3 ≤ c.methods.countP (·.returnsObject c.fullName) &&
    c.methods.any fun m => m.name == "build" || m.name == "create"

/-- Whether the class is an interface through which events are told. -/
def isCallback (c : ClassDecl) : Bool :=
  c.access.isInterface &&
    c.methods.any fun m =>
      ['o', 'n'].isPrefixOf (Text.lowercase m.name.toList) || mentions m "callback" ||
        mentions m "listener" || mentions m "handler"

/-- The mark of a class's use. -/
def classTag (c : ClassDecl) : String :=
  match c.interfaces.findSome? (lookupMarker interfaceTags) with
  | some tag => tag
  | none =>
    if isSingleton c then "Single" else if isBuilder c then "Builder" else if isCallback c then "Cb" else ""

/-- The marks that there are for the use of a class. -/
def classTags : List String := interfaceTags.map (·.2) ++ ["Single", "Builder", "Cb", ""]

/-! ## Fields and methods -/

/-- The class of texts. -/
def textClass : String := "java.lang.String"

/-- The marks of classes by a word in their name. -/
def objectCodes : List (String × String) := [
  ("List", "list"), ("Map", "map"), ("Set", "set"), ("View", "view"), ("Context", "ctx"),
  ("Handler", "handler"), ("Intent", "intent"), ("Bundle", "bundle")]

/-- The mark of an object by its class. -/
def objectCode (name : String) : String :=
  if name = textClass then "str" else (lookupMarker objectCodes name).getD "obj"

/-- The mark of a field by its type. -/
def fieldCode : Option TypeRef → String
  | none | some .void => "field"
  | some .boolean => "is"
  | some .int => "i"
  | some .long => "l"
  | some .float => "f"
  | some .double => "d"
  | some .byte => "b"
  | some .short => "s"
  | some .char => "c"
  | some (.array _) => "arr"
  | some (.object name) => objectCode name

/-- The mark of a method by what it takes and gives. -/
def methodRole (m : MethodDecl) : String :=
  if m.overrides then "mo"
  else
    match m.returns with
    | none => "object"
    | some .boolean => "check"
    | some .void => if m.args.length = 1 then "set" else "do"
    | some _ => if m.args.isEmpty then "get" else "m"

/-- The mark of a method by what it gives. -/
def returnTag : Option TypeRef → String
  | some .boolean => "Bool"
  | some (.object name) =>
    if name = textClass then "Str"
    else (lookupMarker [("List", "List"), ("Map", "Map")] name).getD ""
  | _ => ""

/-- The marks that there are for fields. -/
def fieldCodes : List String :=
  ["field", "is", "i", "l", "f", "d", "b", "s", "c", "arr", "str", "obj"] ++ objectCodes.map (·.2)

/-- The marks that there are for what a method takes and gives. -/
def methodRoles : List String := ["mo", "object", "check", "set", "do", "get", "m"]

/-- The marks that there are for what a method gives. -/
def returnTags : List String := ["Bool", "Str", "List", "Map", ""]

/-! ## No other marks -/

theorem lookupMarker_mem {table : List (String × String)} {name tag : String} (h : lookupMarker table name = some tag) :
    tag ∈ table.map (·.2) := by
  obtain ⟨row, hr, rfl⟩ := Option.map_eq_some_iff.1 h
  exact List.mem_map_of_mem (List.mem_of_find?_eq_some hr)

theorem getD_lookupMarker_mem (table : List (String × String)) (name other : String) :
    (lookupMarker table name).getD other ∈ other :: table.map (·.2) := by
  cases h : lookupMarker table name with
  | none => exact List.mem_cons_self
  | some tag => exact List.mem_cons_of_mem _ (lookupMarker_mem h)

theorem classTag_mem (c : ClassDecl) : classTag c ∈ classTags := by
  unfold classTag
  split
  · rename_i tag h
    obtain ⟨name, -, hn⟩ := List.exists_of_findSome?_eq_some h
    exact List.mem_append_left _ (lookupMarker_mem hn)
  · apply List.mem_append_right
    repeat' split
    all_goals simp

theorem fieldCode_mem (type : Option TypeRef) : fieldCode type ∈ fieldCodes := by
  have hobjects : ∀ code ∈ "obj" :: objectCodes.map (·.2), code ∈ fieldCodes := by decide
  rcases type with - | t
  · decide
  cases t with
  | object name =>
    simp only [fieldCode, objectCode]
    split
    · decide
    · exact hobjects _ (getD_lookupMarker_mem _ _ _)
  | array element =>
    simp only [fieldCode]
    decide
  | _ => decide

theorem methodRole_mem (m : MethodDecl) : methodRole m ∈ methodRoles := by
  unfold methodRole
  repeat' split
  all_goals decide

theorem returnTag_mem (type : Option TypeRef) : returnTag type ∈ returnTags := by
  have hobjects : ∀ tag ∈ "" :: [("List", "List"), ("Map", "Map")].map (·.2), tag ∈ returnTags := by decide
  unfold returnTag
  split
  · decide
  · split
    · decide
    · exact hobjects _ (getD_lookupMarker_mem _ _ _)
  · decide

end Unmask.Alias
