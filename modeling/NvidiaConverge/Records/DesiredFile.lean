import NvidiaConverge.Library.Json
import NvidiaConverge.Library.Result
import NvidiaConverge.Records.Desired

/-!
# Desired-state files

`load_desired` on the text of a file: `_parse_structured` with its two formats, the optional
`desired` wrapper, the check for unknown fields, and `_build_desired`. Both formats give a
mapping from keys to values, `Json.Value` here. The wording of a JSON syntax error, which names
a position in the text, is not modelled.
-/

namespace NvidiaConverge

/-- A mapping of a file: Python's `dict`, in insertion order. -/
abbrev Mapping := List (String × Json.Value)

/-- `mapping.get(key)`: the value of the first field with this key. -/
def Mapping.get? (mapping : Mapping) (key : String) : Option Json.Value :=
  (mapping.find? fun field => field.1 == key).map Prod.snd

/-- `set(mapping)` as a list: the keys of the fields in their order. -/
def Mapping.keys (mapping : Mapping) : List String :=
  mapping.map Prod.fst

namespace DesiredFile

/-! ## Scalars of the YAML subset -/

/-- `char in {"'", '"'}`: the character opens or closes a quoted scalar. -/
def isQuote (c : Char) : Bool :=
  c == Text.singleQuote || c == Text.doubleQuote

/-- The loop of `_strip_inline_comment`; `before` is the text in front, reversed. -/
def stripComment (value : String) (quote : Option Char) (before : List Char) :
    List Char → Except String String
  | [] =>
      if quote.isSome then
        throw ("YAML scalar has unbalanced quoting: " ++ Text.repr value)
      else pure (String.ofList before.reverse)
  | c :: rest =>
      let quote :=
        if isQuote c then
          if quote = some c then none else some (quote.getD c)
        else quote
      if c = '#' ∧ quote = none ∧ before.head?.all Text.isSpace = true then
        pure (String.ofList (before.dropWhile Text.isSpace).reverse)
      else stripComment value quote (c :: before) rest

/-- `_strip_inline_comment`: the value without a comment behind it, quotes respected. -/
def stripInlineComment (value : String) : Except String String :=
  stripComment value none [] value.toList

/-- `_coerce_scalar`: a quoted text, a boolean, a null, an integer or a plain text. -/
def coerceScalar (value : String) : Except String Json.Value :=
  let cs := value.toList
  let startsQuoted := cs.head?.any isQuote
  let endsQuoted := cs.getLast?.any isQuote
  let inner := (cs.drop 1).dropLast
  if startsQuoted || endsQuoted then
    if !startsQuoted || !endsQuoted || cs.head? != cs.getLast? then
      throw ("YAML scalar has unbalanced or mixed quoting: " ++ Text.repr value)
    else if inner.any isQuote then
      throw ("YAML scalar uses unsupported nested or escaped quoting: " ++ Text.repr value)
    else pure (.string (String.ofList inner))
  else if cs.any isQuote then
    throw ("YAML scalar quotes must form one matching outer pair: " ++ Text.repr value)
  else if Text.lower value = "true" then pure (.bool true)
  else if Text.lower value = "false" then pure (.bool false)
  else pure (.string value)

/-! ## Nesting by indentation -/

/-- An entry of the stack above the root: a mapping that is still being filled, and the key and
the indent of the line that opened it. -/
structure Frame where
  indent : Nat
  key : String
  fields : Mapping := []

/-- The root mapping and the open ones inside it, innermost first. -/
structure Document where
  root : Mapping := []
  frames : List Frame := []

namespace Document

/-- `stack[-1][1]`: the mapping that a line at the current depth belongs to. -/
def parent (document : Document) : Mapping :=
  match document.frames with
  | [] => document.root
  | frame :: _ => frame.fields

/-- `parent[key] = value`, for a key that the mapping does not have yet. -/
def insert (document : Document) (key : String) (value : Json.Value) : Document :=
  match document.frames with
  | [] => { document with root := document.root ++ [(key, value)] }
  | frame :: rest =>
      { document with frames := { frame with fields := frame.fields ++ [(key, value)] } :: rest }

/-- `stack.pop()`: the innermost mapping is complete and becomes a field of the one around it. -/
def pop (document : Document) : Document :=
  match document.frames with
  | [] => document
  | frame :: rest => { document with frames := rest }.insert frame.key (.object frame.fields)

/-- `while stack and indent <= stack[-1][0]: stack.pop()`, at most `count` times. -/
def popTo (indent : Nat) : Nat → Document → Document
  | 0, document => document
  | count + 1, document =>
      match document.frames with
      | [] => document
      | frame :: _ =>
          if indent ≤ frame.indent then popTo indent count document.pop else document

/-- The root mapping once the text has ended and every open mapping is closed. -/
def close (document : Document) : Mapping :=
  (popTo 0 document.frames.length document).root

/-- One line of `_parse_simple_yaml`: a blank, a comment, a document marker or a field. -/
def readLine (document : Document) (rawLine : String) : Except String Document :=
  let stripped := Text.strip rawLine
  if stripped = "" ∨ Text.startsWith stripped "#" = true ∨ stripped = "---" ∨ stripped = "..." then
    pure document
  else
    match Text.partition? ':' stripped with
    | none => throw ("unsupported YAML line: " ++ Text.repr rawLine)
    | some (key, value) => do
        let indent := (rawLine.toList.takeWhile (· == ' ')).length
        let document := document.popTo indent document.frames.length
        if key = "" ∨ document.parent.keys.contains key = true then
          throw ("duplicate or empty YAML key: " ++
            Text.repr (if key = "" then "<empty>" else key))
        let value ← stripInlineComment (Text.strip value)
        if value = "" then
          pure { document with frames := { indent := indent, key := key } :: document.frames }
        else do
          let scalar ← coerceScalar value
          pure (document.insert key scalar)

end Document

/-- `_parse_simple_yaml`: the lines of the text, one after the other. -/
def parseSimpleYaml (text : String) : Except String Mapping := do
  let document ← (Text.lines text).foldlM Document.readLine {}
  pure document.close

/-- `_parse_structured`: JSON where the text begins like it, else the YAML subset. -/
def parseStructured (text : String) : Except String Mapping :=
  match (text.toList.dropWhile Text.isSpace).head? with
  | some first =>
      if first = '\x7b' ∨ first = '[' then
        match Json.loads text with
        | some (.object fields) => pure fields
        | some _ => throw "desired-state JSON must be an object"
        | none => throw "invalid JSON"
      else parseSimpleYaml text
  | none => parseSimpleYaml text

/-! ## From the mapping to the state -/

/-- `_DESIRED_FIELDS`: the names that a desired-state file may use. -/
def desiredFields : List String :=
  ["role", "driver", "cuda_compat", "secure_boot", "container_runtime", "container_test_image",
   "fabric_manager", "mig", "mig_profile", "kernel_policy"]

/-- The names that are not listed, sorted and joined. -/
def unlisted (names listed : List String) : String :=
  Text.join ", "
    ((Text.deduplicate (names.filter fun name => !listed.contains name)).insertionSort (· ≤ ·))

/-- The mapping under the optional `desired` wrapper, with no field but those of the state. -/
def desiredMapping (text : String) : Except String Mapping := do
  let data ← parseStructured text
  if data.keys.contains "desired" = true ∧ data.keys.any (· != "desired") = true then
    throw ("desired-state wrapper contains unexpected field(s): " ++
      unlisted data.keys ["desired"])
  match (data.get? "desired").getD (.object data) with
  | .object desired =>
      let names := Mapping.keys desired
      if names.any fun name => !desiredFields.contains name then
        throw ("unknown desired-state field(s): " ++ unlisted names desiredFields)
      pure desired
  | _ => throw "desired state must be an object"

/-- A text field of the mapping, or its default. -/
def textField (values : Mapping) (field default : String) : Except String String :=
  match values.get? field with
  | none => pure default
  | some (.string value) => pure value
  | some _ => throw ("desired." ++ field ++ " must be a string")

/-- The `fabric_manager` flag of the mapping, or its default. -/
def flagField (values : Mapping) (default : Bool) : Except String Bool :=
  match values.get? "fabric_manager" with
  | none => pure default
  | some (.bool value) => pure value
  | some _ => throw "desired.fabric_manager must be true or false"

/-- `_build_desired`. The text fields are checked in the order of the record; the order of the
source's set decides only which of several errors is reported. -/
def buildDesired (values : Mapping) : Except String DesiredState := do
  let standard : DesiredState := {}
  let fabricManager ← flagField values standard.fabricManager
  let desired : DesiredState :=
    { role := ← textField values "role" standard.role
      driver := ← textField values "driver" standard.driver
      cudaCompat := ← textField values "cuda_compat" standard.cudaCompat
      secureBoot := ← textField values "secure_boot" standard.secureBoot
      containerRuntime := ← textField values "container_runtime" standard.containerRuntime
      containerTestImage :=
        ← textField values "container_test_image" standard.containerTestImage
      fabricManager := fabricManager
      mig := ← textField values "mig" standard.mig
      migProfile := ← textField values "mig_profile" standard.migProfile
      kernelPolicy := ← textField values "kernel_policy" standard.kernelPolicy }
  validateDesired desired
  pure desired

/-- `load_desired` on the text of the file: it is parsed, and the fields are validated. -/
def loadDesired (text : String) : Except String DesiredState := do
  buildDesired (← desiredMapping text)

/-! ## What a loaded state is -/

/-- A loaded state is accepted, and its selectors are those of the mapping. -/
theorem load_desired_eq_ok {text : String} {desired : DesiredState}
    (h : loadDesired text = .ok desired) :
    Accepted desired ∧ ∃ values, desiredMapping text = .ok values ∧
      textField values "driver" ({} : DesiredState).driver = .ok desired.driver ∧
      textField values "container_test_image" ({} : DesiredState).containerTestImage =
        .ok desired.containerTestImage := by
  unfold loadDesired at h
  obtain ⟨values, hvalues, hbuild⟩ := Result.bind_eq_ok.mp h
  unfold buildDesired at hbuild
  obtain ⟨fabricManager, _, hbuild⟩ := Result.bind_eq_ok.mp hbuild
  obtain ⟨role, _, hbuild⟩ := Result.bind_eq_ok.mp hbuild
  obtain ⟨driver, hdriver, hbuild⟩ := Result.bind_eq_ok.mp hbuild
  obtain ⟨cudaCompat, _, hbuild⟩ := Result.bind_eq_ok.mp hbuild
  obtain ⟨secureBoot, _, hbuild⟩ := Result.bind_eq_ok.mp hbuild
  obtain ⟨containerRuntime, _, hbuild⟩ := Result.bind_eq_ok.mp hbuild
  obtain ⟨image, himage, hbuild⟩ := Result.bind_eq_ok.mp hbuild
  obtain ⟨mig, _, hbuild⟩ := Result.bind_eq_ok.mp hbuild
  obtain ⟨migProfile, _, hbuild⟩ := Result.bind_eq_ok.mp hbuild
  obtain ⟨kernelPolicy, _, hbuild⟩ := Result.bind_eq_ok.mp hbuild
  obtain ⟨_, hvalid, hdesired⟩ := Result.bind_eq_ok.mp hbuild
  cases Result.pure_eq_ok.mp hdesired
  exact ⟨hvalid, values, hvalues, hdriver, himage⟩

example :
    (loadDesired "desired:\n  driver: '580-open' # branch\n  fabric_manager: True").toOption =
      some { fabricManager := true } := by
  decide +kernel

end DesiredFile

end NvidiaConverge
