/-!
# Request targets

How a request names what it is about: by a path alone, by a scheme and an authority with a path
behind them, by an authority alone, or by a star. A query or a fragment may follow.
-/

namespace Quorum.Http

/-- The characters of which the name of a scheme is made. -/
def isSchemeChar (c : Char) : Bool :=
  c.isAlphanum || c ∈ ['+', '-', '.', '~']

/-- Whether a query or a fragment starts here. -/
def endsPath (c : Char) : Bool :=
  c = '?' || c = '#'

/-- What stands behind the scheme of a target, if it has one. -/
def behindScheme? (target : List Char) : Option (List Char) :=
  match target.dropWhile isSchemeChar with
  | ':' :: '/' :: '/' :: rest => some rest
  | _ => none

/-- The path of a target; with an authority alone there is none, and behind a scheme it is a slash at
least. -/
def targetPath (target : String) : String :=
  let path (cs : List Char) : List Char := cs.takeWhile fun c => !endsPath c
  match target.toList with
  | ['*'] => "*"
  | '/' :: cs => String.ofList ('/' :: path cs)
  | cs =>
    match behindScheme? cs with
    | none => ""
    | some rest =>
      match path (rest.dropWhile fun c => c ≠ '/' && !endsPath c) with
      | [] => "/"
      | found => String.ofList found

end Quorum.Http
