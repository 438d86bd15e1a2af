/-!
# Faults in YAML

## Main definitions

* `Fault`: what is wrong with a text.
* `Fault.text`: what is wrong, in words.
-/

namespace ColumnLineage.Yaml

/-- What is wrong with a text. -/
inductive Fault where
  | controlCharacter
  | badStart
  | tabAsIndentation
  | zeroIndentation
  | noLineEnd
  | unfinishedQuote
  | documentMarkInQuote
  | badEscape
  | colonInFlow
  | badDirective
  | repeatedDirective
  | badVersion
  | badAnchor
  | badTag
  | unknownTagHandle
  | unknownAnchor
  | keyWithoutColon
  | misplacedEntry
  | misplacedKey
  | misplacedValue
  | noContent
  | noEntry
  | noKey
  | noFlowSequenceEnd
  | noFlowMappingEnd
  | noDocumentStart
  | manyDocuments
  | tooDeep
deriving DecidableEq, Repr

namespace Fault

/-- What is wrong, in words. -/
def text : Fault → String
  | controlCharacter => "control characters are not allowed"
  | badStart => "found character that cannot start any token"
  | tabAsIndentation => "found a tab character where an indentation space is expected"
  | zeroIndentation => "found an indentation indicator equal to 0"
  | noLineEnd => "did not find expected comment or line break"
  | unfinishedQuote => "found unexpected end of stream"
  | documentMarkInQuote => "found unexpected document indicator"
  | badEscape => "found unknown escape character"
  | colonInFlow => "found unexpected ':'"
  | badDirective => "found unknown directive name"
  | repeatedDirective => "found duplicate directive"
  | badVersion => "found incompatible YAML document"
  | badAnchor => "did not find expected alphabetic or numeric character"
  | badTag => "did not find expected tag URI"
  | unknownTagHandle => "found undefined tag handle"
  | unknownAnchor => "unknown anchor"
  | keyWithoutColon => "could not find expected ':'"
  | misplacedEntry => "block sequence entries are not allowed in this context"
  | misplacedKey => "mapping keys are not allowed in this context"
  | misplacedValue => "mapping values are not allowed in this context"
  | noContent => "did not find expected node content"
  | noEntry => "did not find expected '-' indicator"
  | noKey => "did not find expected key"
  | noFlowSequenceEnd => "did not find expected ',' or ']'"
  | noFlowMappingEnd => "did not find expected ',' or '\x7d'"
  | noDocumentStart => "did not find expected <document start>"
  | manyDocuments => "deserializing from YAML containing more than one document is not supported"
  | tooDeep => "recursion limit exceeded"

end Fault

end ColumnLineage.Yaml
