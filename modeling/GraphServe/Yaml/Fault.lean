/-!
# Faults of YAML texts

What is wrong with a text that is no YAML, and where.
-/

namespace GraphServe.Yaml

/-- A place in a text: lines count from one, columns from zero. -/
structure Place where
  index  : Nat := 0
  line   : Nat := 1
  column : Nat := 0
deriving DecidableEq, Inhabited, Repr

/-- The place after a character; only a line feed begins a line. -/
def Place.after (p : Place) (c : Char) : Place :=
  if c = '\n' then ⟨p.index + 1, p.line + 1, 0⟩ else ⟨p.index + 1, p.line, p.column + 1⟩

/-- What is wrong with a text. -/
inductive Problem where
  | staleKey
  | missingColon
  | unexpectedCharacter (c : Char)
  | tooDeep
  | valueNotAllowed
  | keyNotAllowed
  | entryNotAllowed
  | entryInFlow
  | directiveName
  | directiveNameEnd
  | directiveEnd
  | versionLength
  | versionNumber
  | versionPoint
  | tagDirectiveEnd
  | tagDirectiveHandle
  | tagOpening
  | tagClosing
  | tagEnd
  | tagText
  | tagEscape
  | tagEscapeLead
  | tagEscapeTail
  | tagEscapeText
  | anchorName
  | zeroIndentation
  | blockHeader
  | blockTab
  | quotedDocument
  | quotedEnd
  | escapeUnknown
  | escapeDigits
  | escapeCharacter
  | plainTab
  | documentStart
  | unknownAnchor
  | nodeContent
  | mappingKey
  | sequenceEntry
  | flowMappingEnd
  | flowSequenceEnd
deriving DecidableEq, Repr

/-- The wording of a problem. -/
def Problem.message : Problem → String
  | staleKey              => "simple key expect ':'"
  | missingColon          => "simple key expected"
  | unexpectedCharacter c => "unexpected character: `" ++ String.singleton c ++ "'"
  | tooDeep               => "recursion limit exceeded"
  | valueNotAllowed       => "mapping values are not allowed in this context"
  | keyNotAllowed         => "mapping keys are not allowed in this context"
  | entryNotAllowed       => "block sequence entries are not allowed in this context"
  | entryInFlow           => "\"-\" is only valid inside a block"
  | directiveName         =>
      "while scanning a directive, could not find expected directive name"
  | directiveNameEnd      =>
      "while scanning a directive, found unexpected non-alphabetical character"
  | directiveEnd          =>
      "while scanning a directive, did not find expected comment or line break"
  | versionLength         =>
      "while scanning a YAML directive, found extremely long version number"
  | versionNumber         =>
      "while scanning a YAML directive, did not find expected version number"
  | versionPoint          =>
      "while scanning a YAML directive, did not find expected digit or '.' character"
  | tagDirectiveEnd       =>
      "while scanning TAG, did not find expected whitespace or line break"
  | tagDirectiveHandle    => "while parsing a tag directive, did not find expected '!'"
  | tagOpening            => "while scanning a tag, did not find expected '!'"
  | tagClosing            => "while scanning a tag, did not find the expected '>'"
  | tagEnd                =>
      "while scanning a tag, did not find expected whitespace or line break"
  | tagText               => "while parsing a tag, did not find expected tag URI"
  | tagEscape             => "while parsing a tag, did not find URI escaped octet"
  | tagEscapeLead         => "while parsing a tag, found an incorrect leading UTF-8 octet"
  | tagEscapeTail         => "while parsing a tag, found an incorrect trailing UTF-8 octet"
  | tagEscapeText         => "while parsing a tag, found an invalid UTF-8 codepoint"
  | anchorName            =>
      "while scanning an anchor or alias, did not find expected alphabetic or numeric character"
  | zeroIndentation       =>
      "while scanning a block scalar, found an indentation indicator equal to 0"
  | blockHeader           =>
      "while scanning a block scalar, did not find expected comment or line break"
  | blockTab              =>
      "while scanning a block scalar, found a tab character where an indentation space is expected"
  | quotedDocument        =>
      "while scanning a quoted scalar, found unexpected document indicator"
  | quotedEnd             => "while scanning a quoted scalar, found unexpected end of stream"
  | escapeUnknown         => "while parsing a quoted scalar, found unknown escape character"
  | escapeDigits          =>
      "while parsing a quoted scalar, did not find expected hexadecimal number"
  | escapeCharacter       =>
      "while parsing a quoted scalar, found invalid Unicode character escape code"
  | plainTab              => "while scanning a plain scalar, found a tab"
  | documentStart         => "did not find expected <document start>"
  | unknownAnchor         => "while parsing node, found unknown anchor"
  | nodeContent           => "while parsing a node, did not find expected node content"
  | mappingKey            => "while parsing a block mapping, did not find expected key"
  | sequenceEntry         =>
      "while parsing a block collection, did not find expected '-' indicator"
  | flowMappingEnd        =>
      "while parsing a flow mapping, did not find expected ',' or '\x7d'"
  | flowSequenceEnd       => "while parsing a flow sequence, expected ',' or ']'"

/-- A problem at a place. -/
structure Fault where
  problem : Problem
  place   : Place
deriving DecidableEq, Repr

/-- A text with the place it is about. -/
def located (text : String) (p : Place) : String :=
  text ++ " at line " ++ toString p.line ++ " column " ++ toString (p.column + 1)

/-- The wording of a fault. -/
def Fault.message (f : Fault) : String := located f.problem.message f.place

end GraphServe.Yaml
