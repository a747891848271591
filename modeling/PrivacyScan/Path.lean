import PrivacyScan.Text.Search

/-!
Paths with forward slashes. A path is kept in normal form: no empty parts and no parts `.`; parts
`..` stay, because a link may stand before them.
-/

namespace PrivacyScan

/-- The anchor is empty for a relative path; two slashes at the start differ from one. -/
structure Path where
  anchor : String := ""
  parts : List String := []
deriving Repr, DecidableEq

namespace Path

def anchorOf : List Char → String
  | '/' :: '/' :: '/' :: _ => "/"
  | '/' :: '/' :: _ => "//"
  | '/' :: _ => "/"
  | _ => ""

def ofText (text : String) : Path where
  anchor := anchorOf text.toList
  parts := (Text.split text "/").filter fun part => part != "" && part != "."

def text (path : Path) : String :=
  if path.anchor.isEmpty && path.parts.isEmpty then "." else path.anchor ++ Text.join "/" path.parts

def normalText (text : String) : String := (ofText text).text

def name (path : Path) : String := path.parts.getLast?.getD ""

def isAbsolute (path : Path) : Bool := !path.anchor.isEmpty

/-- The file ending of a name with its dot; a dot at either end of the name starts none. -/
def suffixOf (name : String) : String :=
  match Text.cutLast? name "." with
  | some (stem, ending) => if stem.isEmpty || ending.isEmpty then "" else "." ++ ending
  | none => ""

def suffix (path : Path) : String := suffixOf path.name

def stem (path : Path) : String :=
  Text.take (Text.length path.name - Text.length path.suffix) path.name

def parent (path : Path) : Path := { path with parts := path.parts.dropLast }

/-- A path below another one; an absolute path stands for itself. -/
def join (path other : Path) : Path :=
  if other.isAbsolute then other else { path with parts := path.parts ++ other.parts }

def child (path : Path) (text : String) : Path := path.join (ofText text)

def relativeTo? (path base : Path) : Option Path :=
  if path.anchor == base.anchor && base.parts.isPrefixOf path.parts then
    some { parts := path.parts.drop base.parts.length }
  else none

/-- Replaces the ending of the name; a path without a name has none to replace. -/
def withSuffix? (path : Path) (suffix : String) : Option Path :=
  if path.name.isEmpty then none
  else some { path with parts := path.parts.dropLast ++ [path.stem ++ suffix] }

/-- Takes each `..` for the step up that it is where there are no links. -/
def resolveParts (done : List String) : List String → List String
  | [] => done.reverse
  | ".." :: rest => resolveParts done.tail rest
  | part :: rest => resolveParts (part :: done) rest

def resolved (path : Path) : Path := { path with parts := resolveParts [] path.parts }

end Path

end PrivacyScan
