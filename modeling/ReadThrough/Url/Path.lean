import ReadThrough.Text.Cut

/-!
# Paths without dots

A path is a row of segments, each with a slash in front. A segment of one dot stays where it is
and one of two dots goes back over the segment before it, so neither is part of the path in the
end; at the end of the path both leave a slash. A dot may be written behind a percent sign.
Nothing goes back over the first slash, nor over the letter of a drive.
-/

set_option autoImplicit false

namespace ReadThrough.Url

open Text

/-- How many dots a segment is, if it is nothing but dots. -/
def dots? : List Char → Option Nat
  | [] => some 0
  | '.' :: rest => (dots? rest).map (· + 1)
  | '%' :: '2' :: 'e' :: rest => (dots? rest).map (· + 1)
  | '%' :: '2' :: 'E' :: rest => (dots? rest).map (· + 1)
  | _ => none

/-- The segment is the letter of a drive. -/
def isDrive : List Char → Bool
  | c :: mark :: rest =>
    c.isAlpha && (mark == ':' || mark == '|') && (rest.isEmpty || rest.head? == some '\\')
  | _ => false

/-- Goes back over the last segment. -/
def goBack : List (List Char) → List (List Char)
  | [] => []
  | last :: before => if isDrive last then last :: before else before

/-- The segments without dots; those that are done stand in front of it, the last one first. -/
def resolve (done : List (List Char)) : List (List Char) → List (List Char)
  | [] => done.reverse
  | segment :: rest =>
    let settle := fun kept => if rest.isEmpty then [] :: kept else kept
    match dots? segment with
    | some 1 => resolve (settle done) rest
    | some 2 => resolve (settle (goBack done)) rest
    | _ => resolve (segment :: done) rest

/-- The path without dots. A path that does not start with a slash gets one; without a path
there is none. -/
def tidyPath (path : List Char) : List Char :=
  match path with
  | [] => []
  | '/' :: rest => '/' :: joinFields '/' (resolve [] (fields '/' rest))
  | path => '/' :: joinFields '/' (resolve [] (fields '/' path))

end ReadThrough.Url
