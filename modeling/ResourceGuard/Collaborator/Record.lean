import ResourceGuard.Access

/-! # What collaborators have seen

A record of everything the collaborators and the application were given, each
kind in its order. A response counts as sent when the transport was given it,
taken or not; a question counts as asked of the access manager only when the
access manager took it. -/
namespace ResourceGuard

/-- The contacts so far, sorted by kind. -/
structure Record where
  verdicts : List AccessQuery := []
  queries : List AccessQuery := []
  sent : List (Endpoint × Response) := []
  requests : List (Endpoint × Request) := []
  responses : List (Endpoint × Response) := []
  errors : List (Endpoint × TransportError) := []

namespace Record

/-- The record with one more contact. -/
def add (answers : Answers) (r : Record) : Contact → Record
  | .lookup _ => r
  | .resolve query => { r with verdicts := r.verdicts ++ [query] }
  | .delegate query =>
    match answers.manager query with
    | .ok () => { r with queries := r.queries ++ [query] }
    | .error _ => r
  | .send peer response => { r with sent := r.sent ++ [(peer, response)] }
  | .handRequest _ peer request => { r with requests := r.requests ++ [(peer, request)] }
  | .handResponse _ peer response => { r with responses := r.responses ++ [(peer, response)] }
  | .handError _ peer error => { r with errors := r.errors ++ [(peer, error)] }
  | .offer _ _ _ => r

end Record

end ResourceGuard
