/-
Tokens of a document, and the directives in front of it.
-/
import CommandServer.Datum

namespace CommandServer.Yaml

abbrev Failure := ReadFailure

inductive Directive where
  | version (major : Nat)
  | tagHandle (handle tagPrefix : String)
  | other

inductive Token where
  | directive (d : Directive)
  | documentStart
  | documentEnd
  | streamEnd
  | blockSequenceStart
  | blockMappingStart
  | blockEnd
  | flowSequenceStart
  | flowSequenceEnd
  | flowMappingStart
  | flowMappingEnd
  | blockEntry
  | flowEntry
  | key
  | value
  | alias (name : String)
  | anchor (name : String)
  | tag (handle : Option String) (suffix : String)
  | scalar (text : List Nat) (plain : Bool)

/-! ## Kinds of tokens -/

namespace Token

def isDirective : Token → Bool
  | .directive _ => true
  | _ => false

def isDocumentStart : Token → Bool
  | .documentStart => true
  | _ => false

def isDocumentEnd : Token → Bool
  | .documentEnd => true
  | _ => false

def isStreamEnd : Token → Bool
  | .streamEnd => true
  | _ => false

/-- The tokens before which a document is over. -/
def endsDocument (t : Token) : Bool :=
  t.isDirective || t.isDocumentStart || t.isDocumentEnd || t.isStreamEnd

def isBlockEnd : Token → Bool
  | .blockEnd => true
  | _ => false

def isBlockEntry : Token → Bool
  | .blockEntry => true
  | _ => false

def isKey : Token → Bool
  | .key => true
  | _ => false

def isValue : Token → Bool
  | .value => true
  | _ => false

def isFlowEntry : Token → Bool
  | .flowEntry => true
  | _ => false

def isFlowSequenceEnd : Token → Bool
  | .flowSequenceEnd => true
  | _ => false

def isFlowMappingEnd : Token → Bool
  | .flowMappingEnd => true
  | _ => false

/-- The tokens before which a part of a block mapping is empty. -/
def endsBlockPart (t : Token) : Bool := t.isKey || t.isValue || t.isBlockEnd

end Token

end CommandServer.Yaml
