/-!
# What is wrong with a YAML text
-/

namespace TypeDocs.Yaml

inductive Malformed where
  /-- A character that may not stand in a text at all. -/
  | badCharacter
  /-- A character or a construct where no token begins. -/
  | badToken
  | badDirective
  | badTag
  | badAnchor
  | badScalar
  | badIndent
  | keyExpected
  | valueExpected
  /-- A token that does not continue what stands before it. -/
  | unexpected
  | unknownAnchor
  | noDocument
  | severalDocuments
  | tooDeep
  | tooManyAliases
  | numberTooLarge
  | unknownTag
  deriving DecidableEq, Repr

def Malformed.message : Malformed → String
  | .badCharacter => "control characters are not allowed"
  | .badToken => "found character that cannot start any token"
  | .badDirective => "while scanning a directive, found what does not belong there"
  | .badTag => "while scanning a tag, found what does not belong there"
  | .badAnchor => "while scanning an anchor or alias, did not find expected alphabetic or numeric character"
  | .badScalar => "while scanning a scalar, found what does not belong there"
  | .badIndent => "found wrong indentation"
  | .keyExpected => "while scanning a simple key, could not find expected ':'"
  | .valueExpected => "mapping values are not allowed in this context"
  | .unexpected => "did not find expected node content"
  | .unknownAnchor => "unknown anchor"
  | .noDocument => "EOF while parsing a value"
  | .severalDocuments => "deserializing from YAML containing more than one document is not supported"
  | .tooDeep => "recursion limit exceeded"
  | .tooManyAliases => "repetition limit exceeded"
  | .numberTooLarge => "number out of range"
  | .unknownTag => "a tag is not expected here"

end TypeDocs.Yaml
