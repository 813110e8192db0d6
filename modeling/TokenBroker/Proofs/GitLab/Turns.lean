import TokenBroker.GitLab.Issuer

/-!
# Conversations as turns

A step of a conversation sends requests, and the server answers each by its place. What matters of a
step is therefore the list of its *turns*, each a request with the reply to it, and its result.
`Issuer.Follows` says that these obey a law wherever the step begins, and that the step looks at
nothing of what was sent before but at how much it was. Laws of steps are put together as steps are
(`Follows.bind`, `Follows.andFinally`), so the requests of a conversation are never counted twice.
-/

namespace TokenBroker.Issuer

variable {α β : Type} {client : HttpClient} {server : HttpServer}

/-! ### Turns -/

/-- A request with the reply to it. -/
structure Turn where
  request : HttpRequest
  reply : HttpReply
  deriving DecidableEq, Inhabited

/-- What becomes of the reply: a response, or an error. -/
def Turn.outcome (client : HttpClient) (turn : Turn) : Except ClientError HttpResponse :=
  receive client turn.request.url turn.reply

/-- The turns of requests that are sent from a place on. -/
def turnsFrom (server : HttpServer) : Nat → List HttpRequest → List Turn
  | _, [] => []
  | place, request :: rest => ⟨request, server place⟩ :: turnsFrom server (place + 1) rest

theorem turnsFrom_append (server : HttpServer) (before after : List HttpRequest) (place : Nat) :
    turnsFrom server place (before ++ after) =
      turnsFrom server place before ++ turnsFrom server (place + before.length) after := by
  induction before generalizing place with
  | nil => rfl
  | cons request rest ih =>
    have hplace : place + 1 + rest.length = place + (request :: rest).length := by
      rw [List.length_cons]
      omega
    rw [List.cons_append, turnsFrom, turnsFrom, ih, List.cons_append, hplace]

/-- The turns are the requests with their replies, and no others. -/
@[simp] theorem map_request_turnsFrom (server : HttpServer) (place : Nat)
    (requests : List HttpRequest) :
    (turnsFrom server place requests).map Turn.request = requests := by
  induction requests generalizing place with
  | nil => rfl
  | cons request rest ih => rw [turnsFrom, List.map_cons, ih]

/-! ### Laws of steps -/

theorem bind_of_ok {step : Conversation α} {next : α → Conversation β} {answer : α}
    {sent sent' : List HttpRequest} (h : step sent = (.ok answer, sent')) :
    (step >>= next) sent = next answer sent' := by
  simp only [bind, ExceptT.bind, ExceptT.mk, StateT.bind, h]
  rfl

theorem bind_of_error {step : Conversation α} {next : α → Conversation β} {error : IssueError}
    {sent sent' : List HttpRequest} (h : step sent = (.error error, sent')) :
    (step >>= next) sent = (.error error, sent') := by
  simp only [bind, ExceptT.bind, ExceptT.mk, StateT.bind, h]
  rfl

/-- What the client comes to by itself is known to the next step at once. -/
theorem ofClient_ok_bind (answer : α) (next : α → Conversation β) :
    (ofClient (.ok answer) >>= next) = next answer := rfl

/-- The turns of a step and its result obey a law, and depend on what was sent before by its length
alone. -/
def Follows (server : HttpServer) (step : Conversation α)
    (law : List Turn → Except IssueError α → Prop) : Prop :=
  ∀ place, ∃ added result,
    (∀ sent : List HttpRequest, sent.length = place → step sent = (result, sent ++ added)) ∧
      law (turnsFrom server place added) result

namespace Follows

variable {law : List Turn → Except IssueError α → Prop}

theorem imp {step : Conversation α} {law' : List Turn → Except IssueError α → Prop}
    (h : Follows server step law) (himp : ∀ turns result, law turns result → law' turns result) :
    Follows server step law' := by
  intro place
  obtain ⟨added, result, hrun, hlaw⟩ := h place
  exact ⟨added, result, hrun, himp _ _ hlaw⟩

/-- A step that sends nothing. -/
theorem silent {step : Conversation α} {result : Except IssueError α}
    (hstep : ∀ sent, step sent = (result, sent)) (hlaw : law [] result) :
    Follows server step law :=
  fun _ ↦ ⟨[], result, fun sent _ ↦ by rw [hstep, List.append_nil], hlaw⟩

/-- A step that sends nothing, after the turns that have led to it. -/
theorem ends {step : Conversation α} {before : List Turn} {result : Except IssueError α}
    (hstep : ∀ sent, step sent = (result, sent)) (hlaw : law before result) :
    Follows server step fun after result ↦ law (before ++ after) result :=
  silent hstep (by rwa [List.append_nil])

/-- Sending a request takes one turn. -/
theorem send {law : List Turn → Except IssueError HttpResponse → Prop} {request : HttpRequest}
    (hlaw : ∀ turn : Turn, turn.request = request →
      law [turn] ((turn.outcome client).mapError .client)) :
    Follows server (send client server request) law := by
  intro place
  refine ⟨[request], (receive client request.url (server place)).mapError .client,
    fun sent hplace ↦ ?_, hlaw ⟨request, server place⟩ rfl⟩
  rw [← hplace]
  rfl

/-- One step after another: the second one takes over from the answer of the first, if there is
one. -/
theorem bind {step : Conversation β} {next : β → Conversation α}
    {first : List Turn → Except IssueError β → Prop} (hstep : Follows server step first)
    (hstopped : ∀ turns error, first turns (.error error) → law turns (.error error))
    (hnext : ∀ answer before, first before (.ok answer) →
      Follows server (next answer) fun after result ↦ law (before ++ after) result) :
    Follows server (step >>= next) law := by
  intro place
  obtain ⟨added, result, hrun, hfirst⟩ := hstep place
  cases result with
  | error error =>
    exact ⟨added, .error error, fun sent hplace ↦ bind_of_error (hrun sent hplace),
      hstopped _ _ hfirst⟩
  | ok answer =>
    -- the next step begins where the first one has ended
    obtain ⟨later, result, hlater, hlaw⟩ := hnext answer _ hfirst (place + added.length)
    refine ⟨added ++ later, result, fun sent hplace ↦ ?_, ?_⟩
    · rw [bind_of_ok (hrun sent hplace), hlater _ (by rw [List.length_append, hplace]),
        List.append_assoc]
    · rwa [turnsFrom_append]

/-- A step after one that the client takes without the server. -/
theorem ofClient_bind {step : Except ClientError β} {next : β → Conversation α}
    (hstopped : ∀ cause, step = .error cause → law [] (.error (.client cause)))
    (hnext : ∀ answer, step = .ok answer → Follows server (next answer) law) :
    Follows server (ofClient step >>= next) law := by
  cases step with
  | error cause => exact .silent (fun _ ↦ rfl) (hstopped cause rfl)
  | ok answer => exact hnext answer rfl

/-- The cleanup follows the body whatever that came to, and only its own errors count. -/
theorem andFinally {body : Conversation α} {cleanup : Conversation Unit}
    {inner : List Turn → Except IssueError α → Prop} (hbody : Follows server body inner)
    (hcleanup : ∀ before result, inner before result → Follows server cleanup fun after ending ↦
      law (before ++ after) (ending.bind fun _ ↦ result)) :
    Follows server (andFinally body cleanup) law := by
  intro place
  obtain ⟨added, result, hrun, hinner⟩ := hbody place
  obtain ⟨later, ending, hlater, hlaw⟩ := hcleanup _ _ hinner (place + added.length)
  refine ⟨added ++ later, ending.bind fun _ ↦ result, fun sent hplace ↦ ?_, ?_⟩
  · have hend := hlater (sent ++ added) (by rw [List.length_append, hplace])
    simp only [Issuer.andFinally, hrun sent hplace, hend, List.append_assoc]
    cases ending <;> rfl
  · rwa [turnsFrom_append]

end Follows

end TokenBroker.Issuer
