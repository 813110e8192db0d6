import TokenBroker.CommandLine.Report
import TokenBroker.Proofs.Except
import TokenBroker.Proofs.Store.Persistence

/-!
# Damaged stores

An encrypted store that cannot be opened is meant to be reported as such. Much of what may be wrong
with a file is: that it cannot be read or unsealed, that it holds no JSON, that its version or one
of its types is unknown. What is not reported is a text that is not UTF-8, one that goes beyond the
limits of JSON before it is malformed, and a document that has not got the shape of one:
`Store.Misshapen`. For each part of a document there is one predicate, with a case for every way in
which the part may be out of shape. Since a document is given up at the first thing that cannot be
read, a part counts only if what stands before it can be read (`Document.FirstFlawed`).
-/

namespace TokenBroker

/-- A fault is a report about an encrypted store. -/
def Fault.IsEncryption (fault : Fault) : Prop :=
  ∃ message suggestion?, fault = .failure (.encryption message suggestion?)

/-- **What is reported of a document** is an unknown version or an unknown type. -/
theorem DocumentError.isEncryption_iff {error : DocumentError} : error.fault.IsEncryption ↔
    (∃ version, error = .unsupportedVersion version) ∨
      (∃ type, error = .unknownSpecification type) ∨ ∃ type, error = .unknownCredential type := by
  cases error <;> simp [fault, Fault.IsEncryption, Failure.encryption]

namespace Document

variable {α β : Type}

/-! ### Readings that break -/

/-- A reading ends in something else than a report about an encrypted store. -/
def Breaks (result : Except DocumentError α) : Prop :=
  ∃ error, result = .error error ∧ ¬ error.fault.IsEncryption

@[simp] theorem not_breaks_ok (a : α) : ¬ Breaks (.ok a) :=
  fun ⟨_, h, _⟩ ↦ nomatch h

@[simp] theorem not_breaks_pure (a : α) : ¬ Breaks (pure a) :=
  not_breaks_ok a

@[simp] theorem breaks_error_iff {error : DocumentError} :
    Breaks (.error error : Except DocumentError α) ↔ ¬ error.fault.IsEncryption := by
  simp [Breaks]

@[simp] theorem breaks_throw_iff {error : DocumentError} :
    Breaks (throw error : Except DocumentError α) ↔ ¬ error.fault.IsEncryption :=
  breaks_error_iff

theorem breaks_misplaced (cause : KindError) :
    Breaks (.error (.misplaced cause) : Except DocumentError α) := by
  simp [DocumentError.isEncryption_iff]

/-- A reading in steps breaks where the first step does, or else what follows it. -/
theorem breaks_bind_iff {x : Except DocumentError α} {f : α → Except DocumentError β} :
    Breaks (x >>= f) ↔ Breaks x ∨ ∃ a, x = .ok a ∧ Breaks (f a) := by
  cases x <;> simp [Breaks, bind, Except.bind]

/-- The first of some items that cannot be read is flawed. -/
def FirstFlawed (read : Json → Except DocumentError α) (Flawed : Json → Prop)
    (items : List Json) : Prop :=
  ∃ before item after, items = before ++ item :: after ∧
    (∀ other ∈ before, ∃ a, read other = .ok a) ∧ Flawed item

theorem firstFlawed_cons_iff {read : Json → Except DocumentError α} {Flawed : Json → Prop}
    {item : Json} {rest : List Json} : FirstFlawed read Flawed (item :: rest) ↔
      Flawed item ∨ (∃ a, read item = .ok a) ∧ FirstFlawed read Flawed rest := by
  constructor
  · rintro ⟨_ | ⟨first, before⟩, flawed, after, heq, hbefore, hflawed⟩
    · cases heq
      exact Or.inl hflawed
    · cases heq
      obtain ⟨hfirst, hbefore⟩ := List.forall_mem_cons.1 hbefore
      exact Or.inr ⟨hfirst, before, flawed, after, rfl, hbefore, hflawed⟩
  · rintro (hflawed | ⟨hitem, before, flawed, after, rfl, hbefore, hflawed⟩)
    · exact ⟨[], item, rest, rfl, nofun, hflawed⟩
    · exact ⟨item :: before, flawed, after, rfl, List.forall_mem_cons.2 ⟨hitem, hbefore⟩, hflawed⟩

/-- **A list of items breaks at the first item that cannot be read.** -/
theorem breaks_mapM_iff {read : Json → Except DocumentError α} {Flawed : Json → Prop}
    (hread : ∀ item, Breaks (read item) ↔ Flawed item) {items : List Json} :
    Breaks (items.mapM read) ↔ FirstFlawed read Flawed items := by
  induction items with
  | nil => simp [FirstFlawed, pure, Except.pure]
  | cons item rest ih =>
    simp only [List.mapM_cons, breaks_bind_iff, firstFlawed_cons_iff, hread, ih, not_breaks_pure,
      and_false, exists_false, or_false, exists_and_right]

/-! ### Fields -/

/-- An array, a text or an object. -/
inductive Listable : Json → Prop
  | arr (items : List Json) : Listable (.arr items)
  | str (text : String) : Listable (.str text)
  | obj (members : List (String × Json)) : Listable (.obj members)

theorem breaks_parts_iff {value : Json} : Breaks (parts value) ↔ ¬ Listable value := by
  cases value with
  | null | bool | int | float => exact iff_of_true (breaks_misplaced _) nofun
  | arr items => exact iff_of_false (not_breaks_ok _) (not_not_intro (.arr items))
  | str text => exact iff_of_false (not_breaks_ok _) (not_not_intro (.str text))
  | obj members => exact iff_of_false (not_breaks_ok _) (not_not_intro (.obj members))

variable {members : List (String × Json)} {name : String}

theorem field?_obj : field? name (.obj members) = .ok (Json.find? name members) :=
  rfl

theorem require_obj_eq_ok_iff {value : Json} :
    require name (.obj members) = .ok value ↔ Json.find? name members = some value := by
  rw [require]
  cases Json.find? name members <;> simp

theorem breaks_require_obj_iff :
    Breaks (require name (.obj members)) ↔ Json.find? name members = none := by
  rw [require]
  cases Json.find? name members <;> simp [DocumentError.isEncryption_iff]

/-- What comes after a field that is needed, but not with what value. -/
theorem missing_or_exists_iff {field? : Option Json} {p : Prop} :
    (field? = none ∨ ∃ value, field? = some value ∧ p) ↔ field? = none ∨ p := by
  cases field? <;> simp

/-- A field of some members cannot be listed, or the first of its parts that cannot be read is
flawed. -/
inductive FlawedList (read : Json → Except DocumentError α) (Flawed : Json → Prop) (name : String)
    (members : List (String × Json)) : Prop
  | unlisted {value : Json} (hvalue : Json.find? name members = some value)
      (h : ¬ Listable value)
  | part {value : Json} {items : List Json} (hvalue : Json.find? name members = some value)
      (hitems : parts value = .ok items) (h : FirstFlawed read Flawed items)

/-- The parts of a field are read one after the other. -/
def readList (read : Json → Except DocumentError α) (name : String)
    (members : List (String × Json)) : Except DocumentError (List α) := do
  (← listField name (.obj members)).mapM read

theorem breaks_readList_iff {read : Json → Except DocumentError α} {Flawed : Json → Prop}
    (hread : ∀ item, Breaks (read item) ↔ Flawed item) :
    Breaks (readList read name members) ↔ FlawedList read Flawed name members := by
  cases hvalue : Json.find? name members with
  | none =>
    have hempty : readList read name members = .ok [] := by
      simp [readList, listField, field?_obj, hvalue]
      rfl
    rw [hempty]
    refine iff_of_false (not_breaks_ok _) ?_
    rintro (⟨h, -⟩ | ⟨h, -, -⟩) <;> simp [hvalue] at h
  | some value =>
    have hlisted : readList read name members = parts value >>= fun items ↦ items.mapM read := by
      simp [readList, listField, field?_obj, hvalue]
      rfl
    rw [hlisted, breaks_bind_iff, breaks_parts_iff]
    constructor
    · rintro (h | ⟨items, hitems, h⟩)
      · exact .unlisted hvalue h
      · exact .part hvalue hitems ((breaks_mapM_iff hread).1 h)
    · rintro (⟨hother, h⟩ | ⟨hother, hitems, h⟩)
      · obtain rfl := Option.some.inj (hvalue.symm.trans hother)
        exact Or.inl h
      · obtain rfl := Option.some.inj (hvalue.symm.trans hother)
        exact Or.inr ⟨_, hitems, (breaks_mapM_iff hread).2 h⟩

end Document

open Document

/-! ### Specifications -/

namespace Specification

/-- A specification is out of shape. One of an unknown type is not. -/
def Misshapen : Json → Prop
  | .obj members =>
    Json.find? "type" members = none ∨
      Json.find? "type" members = some (.str "scheme") ∧
        ∀ schemes, Json.find? "schemes" members = some schemes → ¬ Listable schemes
  | _ => True

theorem breaks_decode_iff (value : Json) : Breaks (decode value) ↔ Misshapen value := by
  cases value with
  | null | bool | int | float | str | arr => exact iff_of_true (breaks_misplaced _) trivial
  | obj members =>
    simp only [decode, Misshapen, apply_ite Breaks, breaks_bind_iff, breaks_parts_iff, field?_obj,
      breaks_require_obj_iff, require_obj_eq_ok_iff, beq_iff_eq]
    refine or_congr_right ⟨?_, ?_⟩
    · rintro ⟨type, htype, h⟩
      split_ifs at h with hscheme hhost
      · obtain rfl := hscheme
        refine ⟨htype, fun schemes hschemes hlistable ↦ ?_⟩
        rw [hschemes] at h
        rcases h with hnone | ⟨_, hsome, h | ⟨_, _, h⟩⟩
        · cases hnone
        · exact h (Option.some.inj hsome ▸ hlistable)
        · exact not_breaks_pure _ h
      · simp at h
      · simp [DocumentError.isEncryption_iff] at h
    · rintro ⟨htype, h⟩
      refine ⟨_, htype, ?_⟩
      rw [if_pos rfl]
      cases hschemes : Json.find? "schemes" members with
      | none => exact Or.inl rfl
      | some schemes => exact Or.inr ⟨schemes, rfl, Or.inl (h schemes hschemes)⟩

end Specification

/-! ### Credentials -/

/-- A scope is read from its name, and from nothing else. -/
theorem CredentialScope.decode_cases (value : Json) :
    (∃ scope : CredentialScope, value = .str scope.name ∧ decode value = .ok scope) ∨
      (∀ scope : CredentialScope, value ≠ .str scope.name) ∧
        decode value = .error (.unknownScope value) := by
  by_cases h : ∃ scope : CredentialScope, value = .str scope.name
  · obtain ⟨scope, rfl⟩ := h
    refine Or.inl ⟨scope, rfl, ?_⟩
    simp only [decode, Json.text?, Option.bind_some, ofName?_name]
  · refine Or.inr ⟨fun scope heq ↦ h ⟨scope, heq⟩, ?_⟩
    have hnone : value.text?.bind ofName? = none := by
      rw [Option.eq_none_iff_forall_ne_some]
      intro scope hscope
      obtain ⟨text, htext, hname⟩ := Option.bind_eq_some_iff.1 hscope
      have hsame : scope.name = text := by simpa using List.find?_some hname
      cases value with
      | str s =>
        obtain rfl := Option.some.inj htext
        exact h ⟨scope, by rw [hsame]⟩
      | null | bool | int | float | arr | obj => cases htext
    rw [decode, hnone]

namespace Credential

/-- The fields that a credential of a type has to have. -/
def requiredFields (type : Json) : List String :=
  if type = .str "username_password" then ["id", "username", "password"]
  else if type = .str "string" then ["id", "secret"]
  else []

/-- A credential is out of shape. One of an unknown type is not, unless its scope is. -/
def Misshapen : Json → Prop
  | .obj members =>
    (∃ value, Json.find? "scope" members = some value ∧
      ∀ scope : CredentialScope, value ≠ .str scope.name) ∨
    Json.find? "type" members = none ∨
    ∃ type, Json.find? "type" members = some type ∧
      ∃ field ∈ requiredFields type, Json.find? field members = none
  | _ => True

/-- **A credential breaks if it is out of shape.** -/
theorem breaks_decode_iff (value : Json) : Breaks (decode value) ↔ Misshapen value := by
  cases value with
  | null | bool | int | float | str | arr => exact iff_of_true (breaks_misplaced _) trivial
  | obj members =>
    have hrequired : ∀ type, (if type = .str "username_password" then
          Json.find? "id" members = none ∨ Json.find? "username" members = none ∨
            Json.find? "password" members = none
        else if type = .str "string" then
          Json.find? "id" members = none ∨ Json.find? "secret" members = none
        else False) ↔ ∃ field ∈ requiredFields type, Json.find? field members = none := by
      intro type
      rw [requiredFields]
      split_ifs <;> simp
    have hunknown : ∀ type, (DocumentError.unknownCredential type).fault.IsEncryption :=
      fun _ ↦ ⟨_, _, rfl⟩
    simp only [decode, Misshapen, apply_ite Breaks, breaks_bind_iff, field?_obj, not_breaks_ok,
      breaks_require_obj_iff, require_obj_eq_ok_iff, beq_iff_eq, not_breaks_pure, breaks_throw_iff,
      hunknown, not_true_eq_false, and_false, exists_false, or_false, false_or, Except.ok.injEq,
      exists_eq_left', missing_or_exists_iff, hrequired]
    -- a scope that is missing is a known one
    rcases CredentialScope.decode_cases ((Json.find? "scope" members).getD (.str "global")) with
      ⟨scope, hvalue, hdecode⟩ | ⟨hvalue, hdecode⟩
    · have hknown : ¬ ∃ value, Json.find? "scope" members = some value ∧
          ∀ scope : CredentialScope, value ≠ .str scope.name := by
        rintro ⟨value, hsome, hunknown⟩
        rw [hsome] at hvalue
        exact hunknown scope hvalue
      simp only [hdecode, hknown, not_breaks_ok, false_or, Except.ok.injEq, exists_eq_left']
    · refine iff_of_true (Or.inl ?_) (Or.inl ?_)
      · rw [hdecode]
        exact ⟨_, rfl, nofun⟩
      · cases hscope : Json.find? "scope" members with
        | none =>
          rw [hscope] at hvalue
          exact absurd rfl (hvalue .global)
        | some value =>
          rw [hscope] at hvalue
          exact ⟨value, rfl, hvalue⟩

end Credential

/-! ### Domains -/

namespace StoreEntry

/-- A domain is out of shape: its specifications are, or its credentials, or its name, which cannot
be an array or an object. They are read in this order, and each counts only if those before it can
be read. -/
def Misshapen : Json → Prop
  | .obj members =>
    FlawedList Specification.decode Specification.Misshapen "specifications" members ∨
    (∃ read, readList Specification.decode "specifications" members = .ok read) ∧
      (FlawedList Credential.decode Credential.Misshapen "credentials" members ∨
      (∃ read, readList Credential.decode "credentials" members = .ok read) ∧
        ∃ name, Json.find? "name" members = some name ∧ name.hashable = false)
  | _ => True

/-- **A domain breaks if it is out of shape.** -/
theorem breaks_decode_iff (value : Json) : Breaks (decode value) ↔ Misshapen value := by
  cases value with
  | null | bool | int | float | str | arr => exact iff_of_true (breaks_misplaced _) trivial
  | obj members =>
    have hdecode : decode (.obj members) = (do
        let specifications ← readList Specification.decode "specifications" members
        let credentials ← readList Credential.decode "credentials" members
        if !((Json.find? "name" members).getD .null).hashable then throw (.misplaced .refused)
        return {
          domain := {
            name := (Json.find? "name" members).getD .null
            description := (Json.find? "description" members).getD .null
            specifications := specifications }
          credentials := credentials }) := by
      simp only [decode, Domain.decode, readList, bind_assoc]
      rfl
    have hname : ((Json.find? "name" members).getD .null).hashable = false ↔
        ∃ name, Json.find? "name" members = some name ∧ name.hashable = false := by
      cases Json.find? "name" members <;> simp [Json.hashable]
    have hlast : ∀ entry : StoreEntry,
        Breaks (if (!((Json.find? "name" members).getD .null).hashable) = true then
          (throw (.misplaced .refused) >>= fun _ : Unit ↦ pure entry) else pure entry) ↔
        ∃ name, Json.find? "name" members = some name ∧ name.hashable = false := by
      intro entry
      rw [← hname]
      cases ((Json.find? "name" members).getD .null).hashable with
      | true => exact iff_of_false (not_breaks_ok _) nofun
      | false => exact iff_of_true (breaks_misplaced _) rfl
    simp only [hdecode, Misshapen, breaks_bind_iff,
      breaks_readList_iff Specification.breaks_decode_iff,
      breaks_readList_iff Credential.breaks_decode_iff, hlast, exists_and_right]

end StoreEntry

/-! ### Documents -/

namespace Store

/-- A document is out of shape. One of another version is not. -/
def Misshapen : Json → Prop
  | .obj members =>
    (∃ version, Json.find? "version" members = some version ∧ version.same formatVersion = true) ∧
      FlawedList StoreEntry.decode StoreEntry.Misshapen "domains" members
  | _ => True

/-- **A document breaks if it is out of shape.** -/
theorem breaks_decode_iff (document : Json) : Breaks (decode document) ↔ Misshapen document := by
  cases document with
  | null | bool | int | float | str | arr => exact iff_of_true (breaks_misplaced _) trivial
  | obj members =>
    have hversion : ((Json.find? "version" members).getD .null).same formatVersion = true ↔
        ∃ version, Json.find? "version" members = some version ∧
          version.same formatVersion = true := by
      cases Json.find? "version" members with
      | none => exact iff_of_false (by decide) nofun
      | some version => simp
    have hdecode : decode (.obj members) =
        if !((Json.find? "version" members).getD .null).same formatVersion then
          throw (.unsupportedVersion ((Json.find? "version" members).getD .null))
        else do
          let entries ← readList StoreEntry.decode "domains" members
          return (entries.foldl replace ⟨[]⟩).withGlobal := by
      simp only [decode, readList, bind_assoc]
      rfl
    rw [hdecode, Misshapen, ← hversion]
    cases ((Json.find? "version" members).getD .null).same formatVersion with
    | false =>
      have hreported : ¬ Breaks (throw (.unsupportedVersion
          ((Json.find? "version" members).getD .null)) : Except DocumentError Store) :=
        mt breaks_throw_iff.1 (not_not_intro ⟨_, _, rfl⟩)
      exact iff_of_false hreported (by simp)
    | true =>
      show Breaks (readList StoreEntry.decode "domains" members >>= _) ↔ _
      rw [breaks_bind_iff, breaks_readList_iff StoreEntry.breaks_decode_iff]
      simp

end Store

/-! ### Opening -/

namespace EncryptedFile

/-- What has been unsealed is no UTF-8, or it is a text in which reading meets something beyond a
limit, or the text of a document out of shape. -/
def BadContent (room : Nat) (content : ByteArray) : Prop :=
  String.fromUTF8? content = none ∨ ∃ text, String.fromUTF8? content = some text ∧
    ((∃ excess, Json.parse text room = .error (.excess excess)) ∨
      ∃ document, Json.parse text room = .ok document ∧ Store.Misshapen document)

/-- A file can be read and unsealed, and what comes out is bad. -/
def Damaged (file : EncryptedFile) (tree : FileTree) : Prop :=
  ∃ sealed content, tree.read file.path = .ok sealed ∧
    file.cipher.decrypt? sealed = some content ∧ BadContent file.room content

theorem not_exists_of_isEncryption {α : Type} {reported : OpenError}
    (h : reported.fault.IsEncryption) : ¬ ∃ error,
      (.error reported : Except OpenError α) = .error error ∧ ¬ error.fault.IsEncryption := by
  rintro ⟨error, heq, hbreaks⟩
  cases heq
  exact hbreaks h

theorem not_isEncryption_excess (cause : Json.Excess) :
    ¬ (OpenError.excess cause).fault.IsEncryption := by
  rintro ⟨_, _, hfault⟩
  cases cause <;> cases hfault

/-- **What has been unsealed breaks if it is bad.** -/
theorem exists_readStore_iff {room : Nat} {content : ByteArray} :
    (∃ error, readStore content room = .error error ∧ ¬ error.fault.IsEncryption) ↔
      BadContent room content := by
  rw [readStore]
  cases htext : String.fromUTF8? content with
  | none =>
    refine iff_of_true ⟨.undecodable, rfl, ?_⟩ (Or.inl htext)
    rintro ⟨_, _, hfault⟩
    cases hfault
  | some text =>
    dsimp only
    rcases hparse : Json.parse text room with (position | cause) | document
    · have hgood : ¬ BadContent room content := by simp [BadContent, htext, hparse]
      exact iff_of_false (not_exists_of_isEncryption ⟨_, _, rfl⟩) hgood
    · exact iff_of_true ⟨_, rfl, not_isEncryption_excess cause⟩
        (Or.inr ⟨text, htext, Or.inl ⟨cause, hparse⟩⟩)
    · have hbad : BadContent room content ↔ Breaks (Store.decode document) := by
        simp [BadContent, htext, hparse, Store.breaks_decode_iff]
      rw [hbad]
      dsimp only
      cases Store.decode document with
      | error cause =>
        have hfault : (OpenError.badDocument cause).fault = cause.fault := rfl
        simp [Except.mapError, hfault]
      | ok store => simp [Except.mapError]

/-- **Loading a file breaks if the file is damaged.** -/
theorem exists_load_iff (file : EncryptedFile) (tree : FileTree) :
    (∃ error, file.load tree = .error error ∧ ¬ error.fault.IsEncryption) ↔ file.Damaged tree := by
  rw [load, Damaged]
  cases hread : tree.read file.path with
  | error cause =>
    refine iff_of_false ?_ (by simp)
    split
    · exact not_exists_of_isEncryption ⟨_, _, rfl⟩
    · simp
  | ok sealed =>
    obtain ⟨hpassable, mode, hnode⟩ := FileTree.read_eq_ok_iff.1 hread
    rw [if_pos (FileTree.exists_of_passable hpassable hnode)]
    dsimp only
    cases hcontent : file.cipher.decrypt? sealed with
    | none => exact iff_of_false (not_exists_of_isEncryption ⟨_, _, rfl⟩) (by simp [hcontent])
    | some content => simp [exists_readStore_iff, hcontent]

/-- A store that cannot be opened is reported by a command, or else the command breaks down. -/
theorem isEncryption_iff_not_crashed (error : OpenError) :
    error.fault.IsEncryption ↔ (Report.ofFault error.fault).crash? = none := by
  constructor
  · rintro ⟨message, suggestion?, h⟩
    rw [h]
    rfl
  · intro h
    cases error with
    | noPassword | unreadable | rejected | notJson => exact ⟨_, _, rfl⟩
    | saltUnavailable | undecodable => cases h
    | excess cause => cases cause <;> cases h
    | badDocument cause =>
      cases cause with
      | unsupportedVersion | unknownSpecification | unknownCredential => exact ⟨_, _, rfl⟩
      | unknownScope | missing | misplaced => cases h

/-- The salt that a store is opened with: the one that is given, unless it is empty, or else the one
beside the file. -/
def obtainSalt (tree : FileTree) (refusals : Refusals) (path : FilePath)
    (salt? : Option ByteArray) (fresh : ByteArray) : Except FileError ByteArray × FileTree :=
  match salt?.filter (·.size != 0) with
  | some salt => (.ok salt, tree)
  | none => loadSalt tree refusals path fresh

/-- **Opening goes in three steps**: the password, the salt, and the file. -/
theorem openStore_eq (ciphers : CipherFamily) (tree : FileTree) (refusals : Refusals)
    (path : FilePath) (password : String) (salt? : Option ByteArray) (fresh : ByteArray)
    (room : Nat) : openStore ciphers tree refusals path password salt? fresh room =
      if password.isEmpty then (.error .noPassword, tree)
      else match obtainSalt tree refusals path salt? fresh with
        | (.error cause, tree) => (.error (.saltUnavailable cause), tree)
        | (.ok salt, tree) =>
          (((keyed ciphers path password salt room).load tree).map
            fun store ↦ (keyed ciphers path password salt room, store), tree) := by
  rw [openStore]
  split
  · rfl
  · rw [obtainSalt]
    cases salt?.filter (·.size != 0) with
    | some salt => rfl
    | none =>
      dsimp only
      rcases loadSalt tree refusals path fresh with ⟨cause | salt, tree⟩ <;> rfl

end EncryptedFile

end TokenBroker
