import Giro.Power
import Giro.Text.Digits
import Giro.Yaml.Node

/-!
# Fields of settings

Settings are written as a YAML mapping from names to values of given kinds, some
of which are mappings again. Names that nobody knows are skipped. The mapping is
read from top to bottom; a name that stands there twice and a value of another
kind end the reading, and names that are missing are reported after that, the
first one in the order of the fields.
-/

namespace Giro

/-- Why a text yields no settings. -/
inductive SettingsFault
  | missing (path : List String) (name : String)
  | unfit
deriving DecidableEq

namespace SettingsFault

/-- What is said about a fault; only names that are missing are told. -/
def message : SettingsFault -> String
  | missing path name =>
      String.join (path.map (fun part => part ++ ": ")) ++ "missing field \x60" ++ name ++
        "\x60"
  | unfit => ""

/-- The fault as it is reported for the mapping around the faulty one. -/
def within (part : String) : SettingsFault -> SettingsFault
  | missing path name => missing (part :: path) name
  | unfit => unfit

end SettingsFault

/-- The value of a setting. -/
inductive Setting
  | text (value : String)
  | optionalText (value : Option String)
  | flag (value : Bool)
  | natural (value : Nat)
  | group (settings : List Setting)

/-- A setting with a name: how it is read, and its value when the name is missing. -/
structure SettingField where
  name : String
  read : Yaml.Node -> Except SettingsFault Setting
  absent : Option Setting

namespace Setting

/-- Any scalar, as it is written. -/
def readText : Yaml.Node -> Except SettingsFault Setting
  | .scalar value _ => .ok (text value)
  | _ => .error .unfit

/-- Any scalar, or nothing. -/
def readOptionalText : Yaml.Node -> Except SettingsFault Setting
  | .scalar value style =>
      if style = .plain && ["", "~", "null", "Null", "NULL"].contains value then
        .ok (optionalText none)
      else .ok (optionalText (some value))
  | _ => .error .unfit

/-- One of the words for true and false. -/
def readFlag : Yaml.Node -> Except SettingsFault Setting
  | .scalar value .plain =>
      if ["true", "True", "TRUE"].contains value then .ok (flag true)
      else if ["false", "False", "FALSE"].contains value then .ok (flag false)
      else .error .unfit
  | _ => .error .unfit

/-- The number written by digits of a base. -/
def numberInBase? (base : Nat) (digits : List Char) : Option Nat := do
  let values <- digits.mapM Text.hexValue?
  if values.isEmpty || values.any (fun value => base <= value) then none
  else some (values.foldl (fun total value => base * total + value) 0)

/--
A natural number: digits after an optional plus sign, in base ten without a zero
in front of others, or in base sixteen, eight or two behind the mark of that base.
-/
def naturalOfText? (text : String) : Option Nat :=
  let digits :=
    match text.toList with
    | '+' :: rest => rest
    | rest => rest
  match digits with
  | ['0'] => some 0
  | '0' :: 'x' :: rest => numberInBase? 16 rest
  | '0' :: 'o' :: rest => numberInBase? 8 rest
  | '0' :: 'b' :: rest => numberInBase? 2 rest
  | '0' :: _ => none
  | _ => Text.readNat? digits

/-- A natural number up to a limit. -/
def readNatural (most : Nat) : Yaml.Node -> Except SettingsFault Setting
  | .scalar value .plain =>
      match naturalOfText? value with
      | some number => if number <= most then .ok (natural number) else .error .unfit
      | none => .error .unfit
  | _ => .error .unfit

/-- The settings of a mapping's entries, behind those that were read already. -/
def readEntries (fields : List SettingField) :
    List (Yaml.Node × Yaml.Node) -> List (String × Setting) ->
      Except SettingsFault (List (String × Setting))
  | [], read => .ok read
  | (.scalar name _, node) :: rest, read =>
      match fields.find? (fun field => field.name = name) with
      | none => if node.isWhole then readEntries fields rest read else .error .unfit
      | some field => do
          if (read.lookup name).isSome then .error .unfit
          let setting <- field.read node
          readEntries fields rest ((name, setting) :: read)
  | _ :: _, _ => .error .unfit

/-- The settings of all fields from those that were read. -/
def complete (read : List (String × Setting)) :
    List SettingField -> Except SettingsFault (List Setting)
  | [] => .ok []
  | field :: rest => do
      match (read.lookup field.name).or field.absent with
      | some setting => .ok (setting :: (<- complete read rest))
      | none => .error (.missing [] field.name)

/-- The settings of all fields from a list of them in order. -/
def readItems : List SettingField -> List Yaml.Node -> Except SettingsFault (List Setting)
  | [], [] => .ok []
  | [], _ :: _ => .error .unfit
  | field :: rest, [] => do
      match field.absent with
      | some setting => .ok (setting :: (<- readItems rest []))
      | none => .error .unfit
  | field :: rest, node :: nodes => do
      let setting <- field.read node
      .ok (setting :: (<- readItems rest nodes))

/-- The settings of all fields; where nothing is written all names are missing. -/
def readGroup (fields : List SettingField) (node : Yaml.Node) :
    Except SettingsFault (List Setting) :=
  match node with
  | .mapping entries => do complete (<- readEntries fields entries []) fields
  | .sequence items => readItems fields items
  | node => if node.isMissing then complete [] fields else .error .unfit

end Setting

namespace SettingField

/-- A text that has to be there. -/
def text (name : String) : SettingField := ⟨name, Setting.readText, none⟩

/-- A text that may be missing. -/
def optionalText (name : String) : SettingField :=
  ⟨name, Setting.readOptionalText, some (.optionalText none)⟩

/-- A flag that has to be there. -/
def flag (name : String) : SettingField := ⟨name, Setting.readFlag, none⟩

/-- A number of so many bits that has to be there. -/
def natural (bits : Nat) (name : String) : SettingField :=
  ⟨name, Setting.readNatural (twoTo bits - 1), none⟩

/-- A group of settings, and what stands for it when it is missing as a whole. -/
def group (name : String) (fields : List SettingField) (absent : Option (List Setting)) :
    SettingField :=
  ⟨name,
    fun node =>
      match Setting.readGroup fields node with
      | .ok settings => .ok (.group settings)
      | .error fault => .error (fault.within name),
    absent.map .group⟩

end SettingField
end Giro
