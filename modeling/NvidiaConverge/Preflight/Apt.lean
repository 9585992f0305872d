import NvidiaConverge.Preflight.Dnf

/-!
# APT transcripts

`_parse_apt_transaction` with its patterns. The lines that it knows are `Inst` and `Remv`; a `Purg`
line, which APT prints instead of `Remv` when it purges, has the fields of a `Remv` line.
-/

namespace NvidiaConverge

/-- `_AptIdentity`: name, architecture, version. -/
abbrev AptIdentity := String × String × String

/-- `_AptInstall`: an install of the simulation, with the version that it replaces. -/
structure AptInstall where
  name : String
  architecture : String
  version : String
  old : Option String
  deriving DecidableEq

/-- `_AptRemoval`: a removal of the simulation, with an architecture where one is printed. -/
structure AptRemoval where
  name : String
  explicitArchitecture : Option String
  version : String
  deriving DecidableEq

/-- The identity of the package that an install leaves. -/
def AptInstall.identity (install : AptInstall) : AptIdentity :=
  (install.name, install.architecture, install.version)

/-- `(name, architecture)`: the slot that an install fills. -/
def AptInstall.slot (install : AptInstall) : String × String :=
  (install.name, install.architecture)

/-! ## Tokens -/

/-- `[a-z0-9]`: a lower case letter or a digit. -/
def isLowerAlphanumeric (c : Char) : Bool :=
  c.isLower || c.isDigit

/-- `[a-z0-9]` followed by more of it or of some other characters. -/
def startsLower (others : List Char) (text : List Char) : Bool :=
  match text with
  | [] => false
  | first :: rest =>
      isLowerAlphanumeric first && rest.all fun c => isLowerAlphanumeric c || others.contains c

/-- `[a-z0-9][a-z0-9+.-]*`: the name of a Debian package. -/
def isAptName (text : List Char) : Bool :=
  startsLower ['+', '.', '-'] text

/-- `[a-z0-9][a-z0-9-]*`: the name of an architecture. -/
def isAptArchitecture (text : List Char) : Bool :=
  startsLower ['-'] text

/-- `_parse_apt_package_token`: a name, with or without an architecture. -/
def parseAptPackageToken (token : List Char) : Option (String × Option String) :=
  match Text.splitFirst ':' token with
  | (name, none) => if isAptName name then some (String.ofList name, none) else none
  | (name, some architecture) =>
      if isAptName name && isAptArchitecture architecture then
        some (String.ofList name, some (String.ofList architecture))
      else none

/-- `\[([^\]\s]+)\]`: what stands between the brackets of a word. -/
def bracketed (token : List Char) : Option String :=
  match token with
  | '[' :: rest =>
      if rest.getLast? = some ']' ∧ rest.dropLast ≠ [] ∧ ']' ∉ rest.dropLast then
        some (String.ofList rest.dropLast)
      else none
  | _ => none

/-- `\((\S+)`: what stands behind the parenthesis of a word. -/
def openedVersion (token : List Char) : Option String :=
  match token with
  | '(' :: c :: rest => some (String.ofList (c :: rest))
  | _ => none

/-- `\[([a-z0-9][a-z0-9-]*)\]\)`: the architecture that ends the parenthesis. -/
def closedArchitecture (token : List Char) : Option String :=
  match token with
  | '[' :: rest =>
      if [']', ')'].isSuffixOf rest && isAptArchitecture rest.dropLast.dropLast then
        some (String.ofList rest.dropLast.dropLast)
      else none
  | _ => none

/-! ## Lines -/

/-- The optional replaced version at the head of some words. -/
def replacedVersion (tokens : List (List Char)) : Option String × List (List Char) :=
  match tokens with
  | [] => (none, [])
  | token :: rest =>
      match bracketed token with
      | some old => (some old, rest)
      | none => (none, token :: rest)

/-- An `Inst` line. The pattern separates all of its parts by whitespace, so they are words; it
ends in one, so no whitespace follows. -/
def parseAptInstall (line : List Char) : Option AptInstall :=
  if line.getLast?.any Text.isSpace then none
  else
    match Text.words line with
    | inst :: package :: rest =>
        match replacedVersion rest with
        | (old, opened :: next :: more) => do
            let version ← openedVersion opened
            let architecture ← closedArchitecture ((next :: more).getLast (List.cons_ne_nil _ _))
            let (name, explicitArchitecture) ← parseAptPackageToken package
            if inst = "Inst".toList ∧ (explicitArchitecture.all (· = architecture)) = true then
              some { name, architecture, version, old }
            else none
        | _ => none
    | _ => none

/-- A line that removes a package, under the word that APT starts it with. -/
def readAptRemoval (verb : String) (line : List Char) : Option AptRemoval :=
  match Text.words line with
  | word :: package :: version :: _ => do
      let (name, explicitArchitecture) ← parseAptPackageToken package
      let version ← bracketed version
      if word = verb.toList then some { name, explicitArchitecture, version } else none
  | _ => none

/-- A `Remv` line, read as a removal. -/
def parseAptRemoval (line : List Char) : Option AptRemoval :=
  readAptRemoval "Remv" line

/-- One line of `_parse_apt_transaction`: an install, a removal or neither. A malformed one refuses
all. -/
def parseAptLine (transaction : List AptInstall × List AptRemoval) (line : List Char) :
    Option (List AptInstall × List AptRemoval) :=
  let (installs, removals) := transaction
  if "Inst ".toList.isPrefixOf line then do
    let install ← parseAptInstall line
    if install.slot ∈ installs.map AptInstall.slot then none
    else some (installs ++ [install], removals)
  else if "Remv ".toList.isPrefixOf line then do
    let removal ← parseAptRemoval line
    if removal ∈ removals then none else some (installs, removals ++ [removal])
  -- `Conf`, free text and `Purg` alike.
  else some (installs, removals)

/-- `_parse_apt_transaction`: the installs and removals that a whole simulation prints. -/
def parseAptTransaction (result : CommandResult) :
    Option (List AptInstall × List AptRemoval) :=
  if outputTruncated result then none
  else (Text.splitLines result.stdout.toList).foldlM parseAptLine ([], [])

end NvidiaConverge
