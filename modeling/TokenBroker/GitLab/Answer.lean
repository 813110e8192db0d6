import TokenBroker.GitLab.Page
import TokenBroker.Http.Client
import TokenBroker.Json.Display

/-!
# What answers say

A page holds the token against forged requests that belongs to its form. The token form is answered
with a page or with JSON. Either may hold the new token; an answer that rejects the form may say
why.
-/

namespace TokenBroker

/-- The first of some members that counts as present, or else the last one, as it is. -/
def Json.firstPresent (value : Json) : List String → Json
  | [] => .null
  | [name] => (value.get? name).getD .null
  | name :: rest =>
    let member := (value.get? name).getD .null
    if member.truthy then member else firstPresent value rest

/-- The new token that a JSON object holds. It may be any value but null. -/
def Json.newToken? : Json → Option Json
  | .obj members =>
    match firstPresent (.obj members) ["new_token", "token"] with
    | .null => none
    | token => some token
  | _ => none

namespace HttpClient

/-- The token against forged requests in a page. -/
def csrfToken? (client : HttpClient) (page : HttpResponse) : Except ClientError (Option String) :=
  (client.text page).map Page.csrfToken?

/-- The new token in an answer: a member of a JSON object, or the value of the tag that shows it. -/
def newToken? (client : HttpClient) (answer : HttpResponse) : Except ClientError (Option Json) :=
  if answer.isJson then (client.json? answer).map fun value? => value?.bind Json.newToken?
  else (client.text answer).map fun page => (Page.createdToken? page).map .str

/-- What the status says, or else how the body begins. -/
def plainReason (client : HttpClient) (answer : HttpResponse) : Except ClientError String :=
  let phrase := reasonPhrase answer.status
  if phrase.isEmpty then client.excerpt answer 200 else .ok phrase

/-- Why an answer rejects the form: what a JSON object says about errors, or else the status. -/
def errorMessage (client : HttpClient) (answer : HttpResponse) : Except ClientError String :=
  if answer.isJson then do
    match ← client.json? answer with
    | none => client.excerpt answer 200
    | some (.obj members) =>
      match Json.firstPresent (.obj members) ["errors", "message", "error"] with
      | .arr items => return ", ".intercalate (items.map Json.display)
      | errors => if errors.truthy then return errors.display else client.plainReason answer
    | some _ => client.plainReason answer
  else client.plainReason answer

end HttpClient

end TokenBroker
