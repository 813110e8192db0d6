import Mathlib.Data.List.DropRight
import TokenBroker.Proofs.Secret.Keyring
import TokenBroker.Secret.Resolver

/-!
# The cache of a resolver

A resolver is called again and again while the backends change. `SecretResolver.cacheAfter` is the
cache that a run of calls leaves behind; what it should hold is said without a cache by
`SecretResolver.firstFound?`, which goes through the calls since the last clearing and takes for a
text the first secret that a backend had for it, if the cache was in use. The two agree after every
run (`valueOf?_cacheAfter`), since one call gives a text a secret only if it has none
(`valueOf?_step_resolve`).

Everything else about the cache follows: what a call answers is either the secret that was found
first or what it would answer without a cache, and only a secret that a backend has just given is
ever kept (`resolve_transparent`).
-/

namespace TokenBroker

/-- What a resolver is called for: to resolve a text with the backends as they are at the moment, or
to forget what it has kept. -/
inductive ResolverCall
  | resolve (backends : List SecretBackend) (useCache : Bool) (text : String)
  | clear

namespace SecretResolver

/-! ### Runs of calls -/

/-- The cache after a call. -/
def step (cache : SecretCache) : ResolverCall → SecretCache
  | .resolve backends useCache text => (resolve backends cache useCache text).cache
  | .clear => []

/-- The cache of a new resolver after calls. -/
def cacheAfter (calls : List ResolverCall) : SecretCache :=
  calls.foldl step []

theorem cacheAfter_concat (calls : List ResolverCall) (call : ResolverCall) :
    cacheAfter (calls ++ [call]) = step (cacheAfter calls) call := by
  rw [cacheAfter, List.foldl_append]
  rfl

/-! ### What has been found -/

/-- The resolution of a text by the backends alone. -/
def uncached (backends : List SecretBackend) (text : String) : Resolution :=
  resolve backends [] false text

def isClear : ResolverCall → Bool
  | .clear => true
  | .resolve .. => false

/-- The calls since the last clearing. -/
def sinceClear (calls : List ResolverCall) : List ResolverCall :=
  calls.rtakeWhile (!isClear ·)

/-- The secret of a resolution that a backend has been asked for. -/
def fromBackend? (resolution : Resolution) : Option String :=
  if resolution.asked = [] then none else resolution.result.toOption

/-- The secret that a backend has for a text when a call resolves the text with the cache in use. -/
def found? (text : String) : ResolverCall → Option String
  | .resolve backends true other =>
    if other = text then fromBackend? (uncached backends text) else none
  | _ => none

/-- The secret that was found first for a text since the last clearing. -/
def firstFound? (calls : List ResolverCall) (text : String) : Option String :=
  (sinceClear calls).findSome? (found? text)

theorem firstFound?_clear (calls : List ResolverCall) (text : String) :
    firstFound? (calls ++ [.clear]) text = none := by
  rw [firstFound?, sinceClear, List.rtakeWhile_concat_neg _ _ _ (by simp [isClear])]
  rfl

theorem firstFound?_resolve (calls : List ResolverCall) (backends : List SecretBackend)
    (useCache : Bool) (other text : String) :
    firstFound? (calls ++ [.resolve backends useCache other]) text =
      (firstFound? calls text).or (found? text (.resolve backends useCache other)) := by
  rw [firstFound?, sinceClear, List.rtakeWhile_concat_pos _ _ _ (by simp [isClear]),
    List.findSome?_append, List.findSome?_singleton]
  rfl

/-! ### One resolution -/

section

variable {backends : List SecretBackend} {cache : SecretCache} {useCache : Bool} {text : String}

/-- A secret that is kept is the answer, whatever the backends are. -/
theorem resolve_of_kept {secret : String} (h : Keyring.valueOf? text cache = some secret) :
    resolve backends cache true text = { result := .ok secret, cache := cache } := by
  rw [resolve, if_pos rfl, h]

theorem resolve_of_not_kept (h : useCache = false ∨ Keyring.valueOf? text cache = none) :
    resolve backends cache useCache text = resolveFresh backends cache useCache text := by
  rcases h with rfl | h
  · rfl
  · rw [resolve, h, ite_self]

/-- A text is resolved by the cache or without looking into it. -/
theorem resolve_cases (backends : List SecretBackend) (cache : SecretCache) (useCache : Bool)
    (text : String) :
    (∃ secret, useCache = true ∧ Keyring.valueOf? text cache = some secret ∧
      resolve backends cache useCache text = { result := .ok secret, cache := cache }) ∨
    ((useCache = false ∨ Keyring.valueOf? text cache = none) ∧
      resolve backends cache useCache text = resolveFresh backends cache useCache text) := by
  cases useCache with
  | false => exact Or.inr ⟨Or.inl rfl, rfl⟩
  | true =>
    cases hkept : Keyring.valueOf? text cache with
    | none => exact Or.inr ⟨Or.inr rfl, resolve_of_not_kept (Or.inr hkept)⟩
    | some secret => exact Or.inl ⟨secret, rfl, rfl, resolve_of_kept hkept⟩

/-- A backend has been asked for the secret that it is said to have. -/
theorem asked_of_ask {query : SecretQuery} {reference secret : String}
    (h : (ask backends query reference).1 = .ok secret) :
    (ask backends query reference).2 = [query] := by
  rw [ask] at h ⊢
  split at h
  · cases h
  · split at h
    · cases h
    · rename_i havailable
      rw [if_neg havailable]

/-- What is answered without looking into the cache does not depend on it. -/
theorem resolveFresh_eq_uncached :
    (resolveFresh backends cache useCache text).result = (uncached backends text).result ∧
      (resolveFresh backends cache useCache text).asked = (uncached backends text).asked := by
  rw [uncached, resolve_of_not_kept (Or.inl rfl), resolveFresh, resolveFresh]
  cases SecretReference.ofText text <;> exact ⟨rfl, rfl⟩

/-- Nothing is found for another text. -/
theorem found?_of_ne {other : String} (h : text ≠ other) :
    found? other (.resolve backends useCache text) = none := by
  cases useCache with
  | false => rfl
  | true => rw [found?, if_neg h]

/-- Nothing is found if the cache is not in use, if a text is no reference, or if it cannot be
resolved. -/
theorem found?_eq_none (h : useCache = false ∨ SecretReference.ofText text = .literal ∨
      ∃ fault, (uncached backends text).result = .error fault) :
    found? text (.resolve backends useCache text) = none := by
  cases useCache with
  | false => rfl
  | true =>
    rw [found?, if_pos rfl, fromBackend?]
    rcases h with hunused | hliteral | ⟨fault, hfault⟩
    · cases hunused
    · rw [uncached, resolve_of_not_kept (Or.inl rfl), resolveFresh, hliteral]
      rfl
    · rw [hfault]
      exact ite_self _

/-! ### What is kept -/

theorem fromBackend?_resolveVia (query : SecretQuery) :
    fromBackend? (resolveVia backends cache useCache text query) =
      (ask backends query text).1.toOption := by
  show (if (ask backends query text).2 = [] then none else (ask backends query text).1.toOption) = _
  cases hanswer : (ask backends query text).1 with
  | error fault => exact ite_self _
  | ok secret => rw [asked_of_ask hanswer, if_neg (List.cons_ne_nil _ _)]

/-- **Only what a backend has just given is kept**, and only if the cache is in use. -/
theorem cache_resolveFresh :
    (resolveFresh backends cache useCache text).cache =
      (found? text (.resolve backends useCache text)).elim cache
        (Keyring.withValue text · cache) := by
  -- what is kept is what `remember` makes of the answer
  have hvia : ∀ query, uncached backends text = resolveVia backends [] false text query →
      remember cache useCache text (ask backends query text).1 =
        (found? text (.resolve backends useCache text)).elim cache
          (Keyring.withValue text · cache) := by
    intro query huncached
    cases useCache with
    | false => cases (ask backends query text).1 <;> rfl
    | true =>
      rw [found?, if_pos rfl, huncached, fromBackend?_resolveVia]
      cases (ask backends query text).1 <;> rfl
  have huncached : uncached backends text = resolveFresh backends [] false text := rfl
  rw [resolveFresh] at huncached ⊢
  cases hform : SecretReference.ofText text with
  | keyring service key => exact hvia _ (by rw [huncached, hform])
  | environment name => exact hvia _ (by rw [huncached, hform])
  | malformed =>
    rw [found?_eq_none (Or.inr (Or.inr ⟨malformed text, by rw [huncached, hform]⟩))]
    rfl
  | literal =>
    rw [found?_eq_none (Or.inr (Or.inl hform))]
    rfl

/-- **One call gives a text a secret only if it has none**, and only the secret that it has
found. -/
theorem valueOf?_step_resolve (other : String) :
    Keyring.valueOf? other (step cache (.resolve backends useCache text)) =
      (Keyring.valueOf? other cache).or (found? other (.resolve backends useCache text)) := by
  show Keyring.valueOf? other (resolve backends cache useCache text).cache = _
  rcases resolve_cases backends cache useCache text with
    ⟨secret, -, hsecret, hresolve⟩ | ⟨hfree, hresolve⟩
  · rw [hresolve]
    by_cases hsame : text = other
    · rw [← hsame, hsecret, Option.some_or]
    · rw [found?_of_ne hsame, Option.or_none]
  · rw [hresolve, cache_resolveFresh]
    by_cases hsame : text = other
    · subst hsame
      cases hfound : found? text (.resolve backends useCache text) with
      | none => exact Option.or_none.symm
      | some secret =>
        have hnone : Keyring.valueOf? text cache = none := by
          refine hfree.resolve_left fun hunused ↦ ?_
          rw [found?_eq_none (Or.inl hunused)] at hfound
          cases hfound
        rw [Option.elim_some, Keyring.valueOf?_withValue, if_pos rfl, hnone, Option.none_or]
    · rw [found?_of_ne hsame, Option.or_none]
      cases found? text (.resolve backends useCache text) with
      | none => rfl
      | some secret => rw [Option.elim_some, Keyring.valueOf?_withValue, if_neg hsame]

end

/-- **After any calls the cache holds what was found first since the last clearing.** -/
theorem valueOf?_cacheAfter (calls : List ResolverCall) (text : String) :
    Keyring.valueOf? text (cacheAfter calls) = firstFound? calls text := by
  induction calls using List.reverseRecOn with
  | nil => rfl
  | append_singleton before call ih =>
    rw [cacheAfter_concat]
    cases call with
    | clear => rw [firstFound?_clear]; rfl
    | resolve backends useCache other =>
      rw [valueOf?_step_resolve, firstFound?_resolve, ih]

/-! ### Transparency -/

/-- **The cache is transparent.** Let a resolver be called any number of times, whatever its
backends are from call to call, and then be asked for a text. If the cache is in use and a secret
was found for the text since the last clearing, the answer is the secret that was found first, and
no backend has a part in it. In every other case the answer, a failure too, is the one that the
backends give at this moment without a cache, and the same backend is asked. The cache stays as it
was if it is not in use, if the text is no reference, and if the answer is a failure. -/
theorem resolve_transparent (calls : List ResolverCall) (backends : List SecretBackend)
    (useCache : Bool) (text : String) :
    let cache := cacheAfter calls
    let now := resolve backends cache useCache text
    (∀ secret, useCache = true → firstFound? calls text = some secret →
      now = { result := .ok secret, cache := cache, asked := [] }) ∧
    (useCache = false ∨ firstFound? calls text = none →
      now.result = (uncached backends text).result ∧
        now.asked = (uncached backends text).asked) ∧
    (useCache = false ∨ SecretReference.ofText text = .literal ∨
        (∃ fault, now.result = .error fault) → now.cache = cache) := by
  intro cache now
  rw [← valueOf?_cacheAfter]
  refine ⟨?_, fun h ↦ ?_, fun h ↦ ?_⟩
  · rintro secret rfl hkept
    exact resolve_of_kept hkept
  · rw [show now = _ from resolve_of_not_kept h]
    exact resolveFresh_eq_uncached
  · rcases resolve_cases backends cache useCache text with
      ⟨secret, -, -, hresolve⟩ | ⟨-, hresolve⟩
    · rw [show now = _ from hresolve]
    · have hnow : now = resolveFresh backends cache useCache text := hresolve
      have hnone : found? text (.resolve backends useCache text) = none := by
        refine found?_eq_none (h.imp_right (Or.imp_right ?_))
        rintro ⟨fault, hfault⟩
        exact ⟨fault, by rw [← resolveFresh_eq_uncached.1, ← hnow, hfault]⟩
      rw [hnow, cache_resolveFresh, hnone]
      rfl

/-- A variable that changes keeps its first value in the cache, until the cache is cleared. -/
example :
    let call (value : String) : ResolverCall :=
      .resolve (SecretBackend.usual [("KEY", value)] {}) true "$\x7bKEY\x7d"
    firstFound? [call "a", call "b"] "$\x7bKEY\x7d" = some "a" ∧
      firstFound? [call "a", .clear, call "b"] "$\x7bKEY\x7d" = some "b" := by
  decide +kernel

end SecretResolver

end TokenBroker
