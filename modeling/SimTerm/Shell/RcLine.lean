import SimTerm.Shell.Persona
import SimTerm.Text.Letter
/-!
# Lines of Shell Configuration

A line scanner for the configuration files of the four shells. It is no shell parser: each
line stands for itself and defines an alias, a function or a variable, or nothing.

An alias is written `alias name=value`, `alias name value` or `Set-Alias name value`. A
function is announced by the word `function` or by a name in front of a pair of parentheses.
A variable is written `NAME=value`, perhaps after `export`, `set -gx NAME value` or
`$env:NAME = value`. Quotes are taken out of values.

## Main definitions

* `RcLine`: What a line defines.
* `RcLine.ofText`: Reads a line.
* `Profile.apply`: Stores what a line defines.
-/

namespace SimTerm

/-- What a line of a shell configuration defines. -/
inductive RcLine where
  /-- Nothing. -/
  | other
  /-- An alias. -/
  | aliasLine (name value : List Char)
  /-- A function; the whole line is kept. -/
  | functionLine (name line : List Char)
  /-- A variable. -/
  | variableLine (name value : List Char)
deriving Repr, DecidableEq

namespace RcLine

open Text

/-- Whether a character is a quote. -/
def isQuote (c : Char) : Bool := c == '\'' || c == '"'

/-- A text without blanks around it and without quotes. -/
def unquote (cs : List Char) : List Char := (trim cs).filter (fun c => !isQuote c)

/-- What follows a beginning of a text. -/
def after? (start cs : List Char) : Option (List Char) :=
  if start.isPrefixOf cs then some (cs.drop start.length) else none

/-- What follows the blanks at the start of a text, of which there has to be one. -/
def afterBlanks? : List Char → Option (List Char)
  | [] => none
  | c :: cs => if isBlank c then some (trimLeft cs) else none

/-- A run of characters of a class at the start of a text, not empty, and what follows. -/
def span1? (p : Char → Bool) (cs : List Char) : Option (List Char × List Char) :=
  match cs.span p with
  | ([], _) => none
  | (run, rest) => some (run, rest)

/-- The start of an alias with an equals sign: the word `alias`, a name and the sign. -/
def assignedAlias? (line : List Char) : Option (List Char × List Char) :=
  match (after? "alias".toList line).bind afterBlanks? with
  | none => none
  | some cs =>
    match span1? (fun c => c != '=' && !isBlank c) cs with
    | some (name, '=' :: value) => some (name, value)
    | _ => none

/-- A word, blanks and a text that is not empty. -/
def wordAndText? (cs : List Char) : Option (List Char × List Char) :=
  match span1? (fun c => !isBlank c) cs with
  | none => none
  | some (name, rest) =>
    match afterBlanks? rest with
    | none => none
    | some [] => none
    | some value => some (name, value)

/-- An alias without an equals sign: the word `alias`, a name and a text. -/
def spacedAlias? (line : List Char) : Option (List Char × List Char) :=
  ((after? "alias".toList line).bind afterBlanks?).bind wordAndText?

/-- Whether a character is a letter of the word `set-alias` in either case; the long s is an
s, and the i with a dot and without one are an i. -/
def isLetterOf (expected c : Char) : Bool :=
  c.toLower == expected || (expected == 's' && c.toNat == 0x17F) ||
    (expected == 'i' && (c.toNat == 0x130 || c.toNat == 0x131))

/-- What follows a word in either case. -/
def afterAnyCase? : List Char → List Char → Option (List Char)
  | [], cs => some cs
  | _ :: _, [] => none
  | w :: ws, c :: cs => if isLetterOf w c then afterAnyCase? ws cs else none

/-- An alias as PowerShell sets it: the word `Set-Alias`, a name and a text. -/
def setAlias? (line : List Char) : Option (List Char × List Char) :=
  ((afterAnyCase? "set-alias".toList line).bind afterBlanks?).bind wordAndText?

/-- The alias that a line defines, if its value is not empty. -/
def aliasOf? (line : List Char) : Option (List Char × List Char) :=
  match (assignedAlias? line).or ((spacedAlias? line).or (setAlias? line)) with
  | none => none
  | some (name, value) =>
    -- The first form that fits decides, even if nothing is left of its value.
    let value := unquote value
    if value.isEmpty then none else some (name, value)

/-- Whether a line is taken for an attempt at an alias. -/
def looksLikeAlias (line : List Char) : Bool :=
  "alias ".toList.isPrefixOf line || "set-alias ".toList.isPrefixOf (lower line)

/-- Whether a character can stand in the name after the word `function`. -/
def isFunctionNameChar (c : Char) : Bool :=
  !isBlank c && c != '(' && c != ')' && c != '\x7b' && c != '\x7d'

/-- The name after the word `function` at the start of a text. -/
def functionName? (cs : List Char) : Option (List Char) :=
  match (after? "function".toList cs).bind afterBlanks? with
  | none => none
  | some rest => (span1? isFunctionNameChar rest).map Prod.fst

/-- The first name after the word `function`, which has to start where no word goes on. -/
def announcedFunction? : Bool → List Char → Option (List Char)
  | _, [] => none
  | inWord, c :: cs =>
    match (if inWord then none else functionName? (c :: cs)) with
    | some name => some name
    | none => announcedFunction? (isWordChar c) cs

/-- Whether an opening parenthesis has a closing one after it. -/
def hasParentheses (cs : List Char) : Bool :=
  (cs.dropWhile (fun c => c != '(')).contains ')'

/-- Whether a character can stand in a name in front of parentheses. -/
def isCallNameChar (c : Char) : Bool := isWordChar c || c == '.' || c == ':' || c == '-'

/-- The name in front of parentheses at the start of a line. -/
def calledFunction? (cs : List Char) : Option (List Char) :=
  match cs with
  | [] => none
  | c :: rest =>
    if !isIdentifierHead c || !hasParentheses cs then none
    else
      let (tail, more) := rest.span isCallNameChar
      if (trimLeft more).head? == some '(' then some (c :: tail) else none

/-- The function that a line defines. -/
def function? (line : List Char) : Option (List Char) :=
  (announcedFunction? false line).or (calledFunction? line)

/-- A variable name at the start of a text, and what follows. -/
def identifier? : List Char → Option (List Char × List Char)
  | [] => none
  | c :: cs =>
    if isIdentifierHead c then
      let (tail, rest) := cs.span isIdentifierTail
      some (c :: tail, rest)
    else none

/-- A variable as PowerShell sets it. -/
def envVariable? (line : List Char) : Option (List Char × List Char) :=
  match (after? "$env:".toList line).bind identifier? with
  | none => none
  | some (name, rest) =>
    match trimLeft rest with
    | '=' :: value => some (name, value)
    | _ => none

/-- What follows an option: a dash, letters and blanks. -/
def afterOption? : List Char → Option (List Char)
  | '-' :: cs => ((span1? Char.isAlpha cs).map Prod.snd).bind afterBlanks?
  | _ => none

/-- What follows all options, of which there are at most `fuel`. -/
def afterOptions : Nat → List Char → List Char
  | 0, cs => cs
  | fuel + 1, cs =>
    match afterOption? cs with
    | some rest => afterOptions fuel rest
    | none => cs

/-- A variable as fish sets it: the word `set`, options, a name and a text. -/
def fishVariable? (line : List Char) : Option (List Char × List Char) :=
  match (after? "set".toList line).bind afterBlanks? with
  | none => none
  | some cs =>
    match identifier? (afterOptions cs.length cs) with
    | none => none
    | some (name, rest) =>
      match afterBlanks? rest with
      | none => none
      | some [] => none
      | some value => some (name, value)

/-- A name without the word `export` in front of it. -/
def dropExport (name : List Char) : List Char :=
  match after? "export ".toList name with
  | some rest => trim rest
  | none => name

/-- A variable with an equals sign after its name. -/
def assignedVariable? (line : List Char) : Option (List Char × List Char) :=
  match line.span (fun c => c != '=') with
  | (left, '=' :: value) =>
    let name := dropExport (trim left)
    if isIdentifier name then some (name, value) else none
  | _ => none

/-- The variable that a line sets. -/
def assigned? (line : List Char) : Option (List Char × List Char) :=
  ((envVariable? line).or ((fishVariable? line).or (assignedVariable? line))).map
    (fun v => (v.1, unquote v.2))

/-- What a line without blanks around it defines. -/
def ofTrimmed (line : List Char) : RcLine :=
  if line.isEmpty || line.head? == some '#' then .other
  else
    match aliasOf? line with
    | some (name, value) => .aliasLine name value
    | none =>
      -- A broken alias is nothing, although it may look like a variable.
      if looksLikeAlias line then .other
      else
        match function? line with
        | some name => .functionLine name line
        | none =>
          match assigned? line with
          | some (name, value) => .variableLine name value
          | none => .other

/-- What a line defines. -/
def ofText (line : List Char) : RcLine := ofTrimmed (trim line)

/-- The lines of a text. -/
def ofLines (text : String) : List RcLine := (text.toList.splitOn '\n').map ofText

/-- Whether a line defines an alias. -/
def isAlias : RcLine → Bool
  | .aliasLine .. => true
  | _ => false

/-- Whether a line defines a function. -/
def isFunction : RcLine → Bool
  | .functionLine .. => true
  | _ => false

/-- Whether a line defines a variable. -/
def isVariable : RcLine → Bool
  | .variableLine .. => true
  | _ => false

end RcLine

namespace Profile

/-- Stores what a line defines. -/
def apply (p : Profile) : RcLine → Profile
  | .other => p
  | .aliasLine name value =>
    { p with aliases := Fields.set p.aliases (String.ofList name) (String.ofList value) }
  | .functionLine name line =>
    { p with functions := Fields.set p.functions (String.ofList name) (String.ofList line) }
  | .variableLine name value =>
    { p with environment := Fields.set p.environment (String.ofList name) (String.ofList value) }

end Profile

end SimTerm
