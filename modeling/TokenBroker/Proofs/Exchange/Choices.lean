import Mathlib.Data.List.Nodup
import TokenBroker.Proofs.Exchange.Selection

/-!
# The list of choices is well formed

A selection shows one choice as selected, and each value once. Both are said by `Marked`: no two
choices have one value, and a choice is shown as selected exactly if its value is the present
selection. What is gathered for logins is marked (`marked_loginChoices`), and it stays so with the
empty choice before it and with the present selection behind it, each of which has a value of its
own: an id is never empty, and the present selection is added only if it is not listed.

So there is exactly one selected choice as soon as the present selection is among the values
(`Marked.filter_selected`), which the last of these steps ensures (`choices_wellFormed`).
-/

namespace TokenBroker

/-- The id of every credential is a text, and not the empty one. -/
def Store.IdsGiven (store : Store) : Prop :=
  ∀ entry ∈ store.entries, ∀ credential ∈ entry.credentials,
    ∃ id, credential.id = .str id ∧ id ≠ ""

/-- Texts can serve as keys. -/
theorem Store.IdsGiven.readable {store : Store} (h : store.IdsGiven)
    (hdomains : ∀ domain ∈ store.domains, domain.Readable) : store.Readable := by
  intro entry hentry
  refine ⟨hdomains _ (List.mem_map_of_mem hentry), fun credential hcredential ↦ ?_⟩
  obtain ⟨id, hid, -⟩ := h entry hentry credential hcredential
  rw [hid]
  rfl

namespace Exchange

/-! ### Marked choices -/

/-- The choices are marked for a selection: no value is that of two of them, and the one with the
selected value is shown as selected, and no other. -/
structure Marked (current : String) (choices : List Choice) : Prop where
  nodup : (choices.map (·.value)).Nodup
  selected_iff : ∀ choice ∈ choices, choice.selected = true ↔ choice.value = .str current

theorem ValuesApart.nodup {choices : List Choice} (h : ValuesApart choices) :
    (choices.map (·.value)).Nodup := by
  refine List.pairwise_map.2 (h.imp fun {a b} hab heq ↦ hab ?_)
  rw [heq]
  exact Json.same_self _

namespace Marked

variable {current : String} {choices : List Choice}

/-- **Where the selected value is listed, exactly one choice is shown as selected.** -/
theorem filter_selected (h : Marked current choices) {choice : Choice} (hmem : choice ∈ choices)
    (hvalue : choice.value = .str current) : choices.filter (·.selected) = [choice] := by
  obtain ⟨before, after, rfl⟩ := List.append_of_mem hmem
  have hnodup := h.nodup
  rw [List.map_append, List.map_cons, List.nodup_middle, List.nodup_cons, ← List.map_append]
    at hnodup
  have hothers : ∀ others, others ⊆ before ++ after → others.filter (·.selected) = [] := by
    intro others hothers
    refine List.filter_eq_nil_iff.2 fun other hother hselected ↦ hnodup.1 ?_
    have hlisted : other ∈ before ++ choice :: after :=
      List.perm_middle.mem_iff.2 (List.mem_cons_of_mem _ (hothers hother))
    rw [hvalue, ← (h.selected_iff other hlisted).1 hselected]
    exact List.mem_map_of_mem (hothers hother)
  have hself : choice.selected = true := (h.selected_iff choice hmem).2 hvalue
  rw [List.filter_append, List.filter_cons_of_pos hself,
    hothers before (List.subset_append_left _ _), hothers after (List.subset_append_right _ _),
    List.nil_append]

theorem cons (h : Marked current choices) {choice : Choice}
    (hselected : choice.selected = true ↔ choice.value = .str current)
    (hnew : choice.value ∉ choices.map (·.value)) : Marked current (choice :: choices) where
  nodup := List.nodup_cons.2 ⟨hnew, h.nodup⟩
  selected_iff := List.forall_mem_cons.2 ⟨hselected, h.selected_iff⟩

/-- The present selection may be added where it is not listed. -/
theorem append_currentChoice (h : Marked current choices)
    (hnew : .str current ∉ choices.map (·.value)) :
    Marked current (choices ++ [currentChoice current]) where
  nodup := by
    rw [List.map_append]
    refine h.nodup.append (List.nodup_singleton _) fun value hvalue hother ↦ hnew ?_
    rwa [List.mem_singleton.1 hother] at hvalue
  selected_iff := by
    rw [List.forall_mem_append, List.forall_mem_singleton]
    exact ⟨h.selected_iff, iff_of_true rfl rfl⟩

end Marked

/-! ### The list of an administrator -/

section

variable {store : Store} {requirements : List Requirement} {current : String}
  {logins choices : List Choice}

/-- **The choices that are gathered for logins are marked**, and none of them has the empty
value. -/
theorem marked_loginChoices (hids : store.IdsGiven) {whos : List Authentication}
    (h : loginChoices store requirements current [] whos = .ok logins) :
    Marked current logins ∧ .str "" ∉ logins.map (·.value) := by
  refine ⟨⟨(valuesApart_loginChoices h List.Pairwise.nil).nodup, ?_⟩, fun hmem ↦ ?_⟩
  · exact forall_mem_loginChoices (fun _ _ _ _ _ ↦ Json.same_str_right_iff) h (by simp)
  · have hgiven : ∀ choice ∈ logins, choice.value ≠ .str "" := by
      refine forall_mem_loginChoices (fun entry hentry login hlogin _ ↦ ?_) h (by simp)
      obtain ⟨id, hid, hne⟩ := hids entry hentry login hlogin
      show login.id ≠ .str ""
      rw [hid]
      exact fun heq ↦ hne (Json.str.inj heq)
    obtain ⟨choice, hchoice, hempty⟩ := List.mem_map.1 hmem
    exact hgiven choice hchoice hempty

/-- The choices of an administrator: the empty choice, those for logins, and the present selection
unless it is empty or listed. -/
def withEnds (current : String) (logins : List Choice) : List Choice :=
  noneChoice current :: logins ++
    if current.isEmpty || logins.any fun choice ↦ Json.same choice.value (.str current) then []
    else [currentChoice current]

theorem choicesWithoutLogins_eq (current : String) :
    choicesWithoutLogins current = withEnds current [] := by
  rw [choicesWithoutLogins, withEnds, List.any_nil, Bool.or_false]
  rfl

/-- **With both ends a list is complete**: it is marked, and the selected value is there. -/
theorem marked_withEnds (h : Marked current logins) (hempty : .str "" ∉ logins.map (·.value)) :
    Marked current (withEnds current logins) ∧
      ∃ choice ∈ withEnds current logins, choice.value = .str current := by
  have hnone : Marked current (noneChoice current :: logins) := by
    refine h.cons ?_ hempty
    rw [noneChoice, String.isEmpty_iff, Json.str.injEq, eq_comm]
  rw [withEnds]
  split
  · rename_i hthere
    rw [List.append_nil]
    refine ⟨hnone, ?_⟩
    rcases Bool.or_eq_true_iff.1 hthere with hblank | hlisted
    · refine ⟨_, List.mem_cons_self, ?_⟩
      rw [String.isEmpty_iff.1 hblank]
      rfl
    · obtain ⟨choice, hchoice, hsame⟩ := List.any_eq_true.1 hlisted
      exact ⟨choice, List.mem_cons_of_mem _ hchoice, Json.same_str_right_iff.1 hsame⟩
  · rename_i hmissing
    simp only [Bool.or_eq_true, String.isEmpty_iff, List.any_eq_true, not_or] at hmissing
    refine ⟨hnone.append_currentChoice fun hmem ↦ ?_,
      ⟨currentChoice current, by simp, rfl⟩⟩
    obtain ⟨choice, hchoice, hvalue⟩ := List.mem_map.1 hmem
    rcases List.mem_cons.1 hchoice with rfl | hchoice
    · exact hmissing.1 (Json.str.inj hvalue).symm
    · exact hmissing.2 ⟨choice, hchoice, Json.same_str_right_iff.2 hvalue⟩

/-- The list of an administrator has both ends, around choices for logins that are marked. -/
theorem choices_eq_withEnds {exchange : Exchange} {acl : AccessControl}
    (hadmin : acl.has .administer = true) (hids : store.IdsGiven)
    {serverUrl? selection? : Option String}
    (h : exchange.choices acl store serverUrl? selection? = .ok choices) :
    let current := stripped (selection?.getD "")
    ∃ logins, Marked current logins ∧ .str "" ∉ logins.map (·.value) ∧
      choices = withEnds current logins := by
  intro current
  rw [Exchange.choices, hadmin] at h
  simp only [Bool.not_true, Bool.false_eq_true, if_false] at h
  split at h
  · rename_i requirements _
    rw [administratorChoices, Except.bind_eq_ok_iff] at h
    obtain ⟨logins, hlogins, h⟩ := h
    obtain ⟨hmarked, hempty⟩ := marked_loginChoices hids hlogins
    exact ⟨logins, hmarked, hempty, (Except.ok.inj h).symm⟩
  · split at h
    · rw [choicesWithoutLogins_eq] at h
      exact ⟨[], ⟨List.nodup_nil, by simp⟩, by simp, (Except.ok.inj h).symm⟩
    · cases h

end

/-! ### Every list -/

/-- **The list of choices is well formed.** Let the ids of all credentials be texts that are not
empty. There is a list for every caller who may not administer, and for one who may if the
specifications of the domains can be read and the URL is not refused for its authority. Whenever
there is a list, no value is listed twice. One who may administer finds the empty choice first, and
exactly one choice that is selected, which has the present selection, without blanks at its ends,
for its value. Anybody else finds the present selection alone, selected, or nothing if it is
blank. -/
theorem choices_wellFormed (exchange : Exchange) (acl : AccessControl) {store : Store}
    (hids : store.IdsGiven) (serverUrl? selection? : Option String) :
    let current := stripped (selection?.getD "")
    ((acl.has .administer = true → (∀ domain ∈ store.domains, domain.Readable) ∧
        ∀ cause, ServerUrl.parse (exchange.serverUrlOr serverUrl?) ≠ .error (.authority cause)) →
      ∃ choices, exchange.choices acl store serverUrl? selection? = .ok choices) ∧
    ∀ choices, exchange.choices acl store serverUrl? selection? = .ok choices →
      (choices.map (·.value)).Nodup ∧
      (acl.has .administer = true → choices.head? = some (noneChoice current) ∧
        ∃ choice, choices.filter (·.selected) = [choice] ∧ choice.value = .str current) ∧
      (acl.has .administer = false →
        choices = if current = "" then [] else [currentChoice current]) := by
  intro current
  cases hadmin : acl.has .administer with
  | false =>
    have hlist : exchange.choices acl store serverUrl? selection? =
        .ok (if current = "" then [] else [currentChoice current]) := by
      rw [Exchange.choices, hadmin]
      simp only [Bool.not_false, if_true, String.isEmpty_iff]
      rfl
    refine ⟨fun _ ↦ ⟨_, hlist⟩, fun choices h ↦ ?_⟩
    obtain rfl := Except.ok.inj (hlist.symm.trans h)
    refine ⟨?_, fun hother ↦ absurd hother Bool.false_ne_true, fun _ ↦ rfl⟩
    split
    · exact List.nodup_nil
    · exact List.nodup_singleton _
  | true =>
    refine ⟨fun husable ↦ ?_, fun choices h ↦ ?_⟩
    · obtain ⟨hdomains, hurl⟩ := husable rfl
      cases hchoices : exchange.choices acl store serverUrl? selection? with
      | ok choices => exact ⟨choices, rfl⟩
      | error fault =>
        exfalso
        rcases choices_error hadmin hchoices with ⟨hrefused⟩ | ⟨hunreadable⟩
        · exact hurl _ hrefused
        · exact hunreadable (hids.readable hdomains)
    · obtain ⟨logins, hlogins, hempty, rfl⟩ := choices_eq_withEnds hadmin hids h
      obtain ⟨hmarked, choice, hchoice, hvalue⟩ := marked_withEnds hlogins hempty
      exact ⟨hmarked.nodup, fun _ ↦ ⟨rfl, choice, hmarked.filter_selected hchoice hvalue, hvalue⟩,
        fun hother ↦ absurd hother.symm Bool.false_ne_true⟩

/-- One id for logins in two domains and for one of the caller's own, and a selection with blanks
around it that none of them has. -/
theorem choices_wellFormed_shared :
    let login (id : String) (owner : Json) (username : String) : Credential :=
      { id := .str id, owner := owner, content := .login (.str username) (.str "p") }
    let store : Store := ⟨[
      { domain := .global
        credentials := [login "x" (.str "root") "own", login "x" .null "system"] },
      { domain := { name := .str "d" }, credentials := [login "x" .null "later"] }]⟩
    let acl := AccessControl.start (.administrator "root")
    store.IdsGiven ∧ acl.has .administer = true ∧
      ∃ choices, ({} : Exchange).choices acl store none (some " y ") = .ok choices ∧
        choices = [noneChoice "y", loginChoice "y" (login "x" .null "system"),
          currentChoice "y"] ∧
        (choices.map (·.value)).Nodup ∧ choices.head? = some (noneChoice "y") ∧
        ∃ choice, choices.filter (·.selected) = [choice] ∧ choice.value = .str "y" := by
  intro login store acl
  have hids : store.IdsGiven := by simp [Store.IdsGiven, store, login]
  have hadmin : acl.has .administer = true := by decide
  have hchoices : ({} : Exchange).choices acl store none (some " y ") =
      .ok [noneChoice "y", loginChoice "y" (login "x" .null "system"), currentChoice "y"] := by
    decide +kernel
  obtain ⟨hnodup, hlist, -⟩ :=
    (choices_wellFormed {} acl hids none (some " y ")).2 _ hchoices
  exact ⟨hids, hadmin, _, hchoices, rfl, hnodup, hlist hadmin⟩

end Exchange

end TokenBroker
