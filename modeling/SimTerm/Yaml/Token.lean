import SimTerm.Yaml.Problem
/-!
# YAML Tokens

The tokens of a YAML text. Block structure, which the text shows by indentation, is explicit in
the tokens, and so is the start of a mapping whose key is only known as such at its colon.

## Main definitions

* `Yaml.TokenKind`, `Yaml.Token`: The tokens and their places.
* `Yaml.TokenKind.name`: A token as messages show it.
* `Yaml.TokenStream`: The tokens of a text, up to the problem that ended their reading.
-/

namespace SimTerm

namespace Yaml

/-- The kinds of tokens. -/
inductive TokenKind where
  /-- The end of the text. -/
  | streamEnd
  /-- The version that a document is written in. -/
  | version (major minor : Nat)
  /-- A handle that stands for the beginning of a tag. -/
  | handle (handle start : String)
  /-- A directive without a meaning here. -/
  | otherDirective
  /-- The marker in front of a document. -/
  | documentStart
  /-- The marker after a document. -/
  | documentEnd
  /-- The start of a sequence shown by indentation. -/
  | blockSequenceStart
  /-- The start of a mapping shown by indentation. -/
  | blockMappingStart
  /-- The end of a sequence or mapping shown by indentation. -/
  | blockEnd
  /-- An opening bracket. -/
  | flowSequenceStart
  /-- A closing bracket. -/
  | flowSequenceEnd
  /-- An opening brace. -/
  | flowMappingStart
  /-- A closing brace. -/
  | flowMappingEnd
  /-- The dash in front of an item. -/
  | blockEntry
  /-- A comma. -/
  | flowEntry
  /-- The start of a key. -/
  | key
  /-- The colon in front of a value. -/
  | value
  /-- A reference to an anchor. -/
  | reference (name : String)
  /-- An anchor. -/
  | anchor (name : String)
  /-- A tag with its handle, if it has one. -/
  | tag (handle : Option String) (suffix : String)
  /-- A scalar, and whether it is written without quotes and indicators. -/
  | scalar (text : String) (plain : Bool)
deriving Repr, DecidableEq, Inhabited

namespace TokenKind

/-- A token as messages show it. -/
def name : TokenKind → String
  | .streamEnd => "<stream end>"
  | .version .. | .handle .. | .otherDirective => "<directive>"
  | .documentStart => "<document start>"
  | .documentEnd => "<document end>"
  | .blockSequenceStart => "<block sequence start>"
  | .blockMappingStart => "<block mapping start>"
  | .blockEnd => "<block end>"
  | .flowSequenceStart => "["
  | .flowSequenceEnd => "]"
  | .flowMappingStart => "\x7b"
  | .flowMappingEnd => "\x7d"
  | .blockEntry => "-"
  | .flowEntry => ","
  | .key => "?"
  | .value => ":"
  | .reference _ => "<alias>"
  | .anchor _ => "<anchor>"
  | .tag .. => "<tag>"
  | .scalar .. => "<scalar>"

/-- Whether a token is a directive. -/
def isDirective : TokenKind → Bool
  | .version .. | .handle .. | .otherDirective => true
  | _ => false

end TokenKind

/-- A token with its places. -/
structure Token where
  /-- What it is. -/
  kind : TokenKind
  /-- Where it starts. -/
  start : Mark
  /-- Where it ends. -/
  stop : Mark
deriving Repr, Inhabited

/-- The tokens of a text. -/
structure TokenStream where
  /-- The tokens. -/
  tokens : List Token
  /-- What ended their reading early, if anything. -/
  fault : Option Fault
deriving Repr

end Yaml

end SimTerm
