import RemoteDebugger.Proofs.Json.Parser
import RemoteDebugger.Record.Decoding

/-!
# Which bytes are records

Bytes spell a value with the members of its objects in the order of the text, and maybe several
of them under one key. Which objects are records, and on which request the others are blamed, is
said of the last values that they have under six keys.
-/

namespace RemoteDebugger

open Json

/-! ### Values that bytes spell -/

/-- The bytes are the text of a value, with all members as they come in it. No text is nested
deeper than 127 arrays and objects. -/
def Json.Spells (bs : Bytes) (v : Json) : Prop :=
  ∃ s, Utf8.decode? bs = some s ∧ tokenize? s.toList = some v.tokens ∧ v.depth ≤ 127

/-- The last value that members have under a key. -/
def Json.last? (key : String) (ms : Members) : Option Json := ms.reverse.lookup key

/-- The number of the request that a broken answer answers, if it could be told. -/
def Blame.answered? : Blame → Option RequestId
  | .answerTo id => some id
  | _            => none

/-- The number of the request that is broken, if it could be told. -/
def Blame.asked? : Blame → Option RequestId
  | .request id => some id
  | _           => none

namespace Record

variable {bs : Bytes} {ms : Members} {v : Option Json} {id : Option RequestId} {r : Record}
    {e : DecodeError}

/-- What the parser reads is the normal form of what the bytes spell. -/
lemma parse?_eq_some_iff {v : Json} :
    (Utf8.decode? bs).bind parse? = some v ↔ ∃ x, Spells bs x ∧ v = x.normal := by
  rw [Option.bind_eq_some_iff]
  constructor
  · rintro ⟨s, hs, hparse⟩
    obtain ⟨ts, hts, hv⟩ := Option.bind_eq_some_iff.mp hparse
    obtain ⟨x, rfl, hdepth, rfl⟩ := ofTokens?_eq_some_iff.mp hv
    exact ⟨x, ⟨s, hs, hts, hdepth⟩, rfl⟩
  · rintro ⟨x, ⟨s, hs, hts, hdepth⟩, rfl⟩
    exact ⟨s, hs, Option.bind_eq_some_iff.mpr ⟨x.tokens, hts, ofTokens?_tokens hdepth⟩⟩

lemma decode_of_spells (h : Spells bs (.object ms)) :
    decode bs = ofMembers (sortMembers (normalMembers ms)) := by
  rw [decode, parse?_eq_some_iff.mpr ⟨_, h, rfl⟩]
  rfl

/-- Bytes that spell no object are no record, and nobody is to blame for them. -/
lemma decode_of_not_spells (h : ∀ ms, ¬ Spells bs (.object ms)) :
    ∃ reason, decode bs = .error ⟨.nobody, reason⟩ := by
  rw [decode]
  split
  · next v hv =>
    obtain ⟨x, hx, rfl⟩ := parse?_eq_some_iff.mp hv
    cases x with
    | object ms => exact absurd hx (h ms)
    | _ => exact ⟨.notObject, rfl⟩
  · exact ⟨.notJson, rfl⟩

/-! ### Members of records -/

/-- What stands under the key of the id is no id, or it is an unsigned number of 64 bits. -/
inductive IdOf : Option Json → Option RequestId → Prop
  | absent : IdOf none none
  | null : IdOf (some .null) none
  | number {n : Nat} (h : n < 2 ^ 64) : IdOf (some (.number (.int n))) (some n)

/-- What stands under the key of the arguments is nothing, or it is a list. -/
inductive ArgsOf : Option Json → List Json → Prop
  | absent : ArgsOf none []
  | null : ArgsOf (some .null) []
  | list {xs : List Json} : ArgsOf (some (.array xs)) (normalItems xs)

/-- What stands under the key of the keyword arguments is nothing, or it is a mapping. -/
inductive KwargsOf : Option Json → Members → Prop
  | absent : KwargsOf none []
  | null : KwargsOf (some .null) []
  | mapping {ms : Members} : KwargsOf (some (.object ms)) (sortMembers (normalMembers ms))

/-- The members of an object are a record. -/
inductive IsRecord (ms : Members) : Record → Prop
  | request {n : RequestId} {method : String} {args : List Json} {kwargs : Members}
      (hid : IdOf (last? "id" ms) (some n)) (hmethod : last? "method" ms = some (.string method))
      (hargs : ArgsOf (last? "args" ms) args) (hkwargs : KwargsOf (last? "kwargs" ms) kwargs) :
    IsRecord ms (.request n method args kwargs)
  | notification {method : String} {args : List Json} {kwargs : Members}
      (hid : IdOf (last? "id" ms) none) (hmethod : last? "method" ms = some (.string method))
      (hargs : ArgsOf (last? "args" ms) args) (hkwargs : KwargsOf (last? "kwargs" ms) kwargs) :
    IsRecord ms (.notification method args kwargs)
  | error {n : RequestId} {error : Json} (hid : IdOf (last? "id" ms) (some n))
      (hmethod : last? "method" ms = none) (herror : last? "error" ms = some error)
      (hnull : error ≠ .null) :
    IsRecord ms (.response n (.error (.ofJson error.normal)))
  | result {n : RequestId} {result : Json} (hid : IdOf (last? "id" ms) (some n))
      (hmethod : last? "method" ms = none)
      (herror : last? "error" ms = none ∨ last? "error" ms = some .null)
      (hresult : last? "result" ms = some result) :
    IsRecord ms (.response n (.ok result.normal))

/-- An id is a whole number of 64 bits, or it is absent or null. -/
lemma decodeId_eq_ok_iff : decodeId (v.map normal) = .ok id ↔ IdOf v id := by
  constructor
  · intro h
    match v with
    | none =>
      cases h
      exact .absent
    | some .null =>
      cases h
      exact .null
    | some (.number (.int i)) =>
      simp only [Option.map_some, normal, decodeId, toNat?, Number.toNat?] at h
      split at h
      · next n hn =>
        split_ifs at hn with hi
        cases hn
        cases h
        obtain ⟨k, rfl⟩ := Int.eq_ofNat_of_zero_le hi.1
        exact .number (Nat.lt_succ_of_le hi.2)
      · cases h
    | some (.number (.double _)) | some (.bool _) | some (.string _) | some (.array _)
    | some (.object _) => cases h
  · intro h
    cases h with
    | absent => rfl
    | null => rfl
    | number h =>
      have hle : _ ≤ Numeral.max64 := Nat.le_of_lt_succ h
      simp [normal, decodeId, toNat?, Number.toNat?, hle]

lemma decodeId_eq (h : decodeId v = .ok id) : v.bind Json.toNat? = id := by
  simp only [decodeId] at h
  split at h
  · cases h
    rfl
  · cases h
    rfl
  · next v _ =>
    rw [Option.bind_some]
    split at h
    · next n hn =>
      cases h
      exact hn
    · cases h

/-- An id that is none is no id to blame. -/
lemma blame_of_decodeId (h : decodeId v = .error e) :
    e.blame = .nobody ∧ v.bind Json.toNat? = none := by
  simp only [decodeId] at h
  split at h
  · cases h
  · cases h
  · next v _ =>
    rw [Option.bind_some]
    split at h
    · cases h
    · next hn =>
      cases h
      exact ⟨rfl, hn⟩

lemma decodeArgs?_eq_some_iff {args : List Json} :
    decodeArgs? (v.map normal) = some args ↔ ArgsOf v args := by
  constructor
  · intro h
    match v with
    | none =>
      cases h
      exact .absent
    | some .null =>
      cases h
      exact .null
    | some (.array xs) =>
      cases h
      exact .list
    | some (.bool _) | some (.number _) | some (.string _) | some (.object _) => cases h
  · intro h
    cases h <;> rfl

lemma decodeKwargs?_eq_some_iff {kwargs : Members} :
    decodeKwargs? (v.map normal) = some kwargs ↔ KwargsOf v kwargs := by
  constructor
  · intro h
    match v with
    | none =>
      cases h
      exact .absent
    | some .null =>
      cases h
      exact .null
    | some (.object ms) =>
      cases h
      exact .mapping
    | some (.bool _) | some (.number _) | some (.string _) | some (.array _) => cases h
  · intro h
    cases h <;> rfl

/-! ### Records and what is blamed -/

variable {ns : Members} {method : Json}

/-- A call has a text for its method, and arguments if it has any. -/
lemma decodeCall_eq_ok_iff : decodeCall id ns method = .ok r ↔ ∃ name args kwargs,
    method = .string name ∧ decodeArgs? (ns.lookup "args") = some args ∧
      decodeKwargs? (ns.lookup "kwargs") = some kwargs ∧ r = call id name args kwargs := by
  constructor
  · intro h
    simp only [decodeCall] at h
    split at h
    · next name =>
      split at h
      · cases h
      · cases h
      · next args kwargs hargs hkwargs =>
        cases h
        exact ⟨name, args, kwargs, rfl, hargs, hkwargs, rfl⟩
    · cases h
  · rintro ⟨name, args, kwargs, rfl, hargs, hkwargs, rfl⟩
    rw [decodeCall, hargs, hkwargs]

/-- A broken call is blamed on the request that it would have been. -/
lemma blame_of_decodeCall (h : decodeCall id ns method = .error e) :
    e.blame = (id.map Blame.request).getD .nobody := by
  rw [decodeCall.eq_def] at h
  split at h
  · split at h
    · cases h
      rfl
    · cases h
      rfl
    · cases h
  · cases h
    rfl

/-- An error that is not null is the outcome, and else a result is. -/
lemma decodeResponse_eq_ok_iff : decodeResponse id ns = .ok r ↔ ∃ n, id = some n ∧
    ((∃ error, ns.lookup "error" = some error ∧ error ≠ .null ∧
        r = .response n (.error (.ofJson error))) ∨
      ∃ result, (ns.lookup "error" = none ∨ ns.lookup "error" = some .null) ∧
        ns.lookup "result" = some result ∧ r = .response n (.ok result)) := by
  constructor
  · intro h
    simp only [decodeResponse] at h
    split at h
    · cases h
    · next n =>
      refine ⟨n, rfl, ?_⟩
      split at h
      · cases h
      · cases h
      · next herror hresult =>
        cases h
        exact .inr ⟨_, .inl herror, hresult, rfl⟩
      · next herror hresult =>
        cases h
        exact .inr ⟨_, .inr herror, hresult, rfl⟩
      · next _ error herror hnone hsome =>
        cases h
        refine .inl ⟨error, herror, fun hnull => ?_, rfl⟩
        cases hresult : ns.lookup "result" with
        | none => exact hnone hresult hnull
        | some result => exact hsome result hresult hnull
  · rintro ⟨n, rfl, ⟨error, herror, hnull, rfl⟩ | ⟨result, herror | herror, hresult, rfl⟩⟩
    -- an error that is not null, whatever the result is
    · rw [decodeResponse, herror]
      cases error with
      | null => exact absurd rfl hnull
      | _ => rfl
    · rw [decodeResponse, herror, hresult]
    · rw [decodeResponse, herror, hresult]

/-- A broken answer is blamed on the request that it would have answered. -/
lemma blame_of_decodeResponse (h : decodeResponse id ns = .error e) :
    e.blame = (id.map Blame.answerTo).getD .nobody := by
  simp only [decodeResponse] at h
  split at h
  · cases h
    rfl
  · split at h
    · cases h
      rfl
    · cases h
      rfl
    · cases h
    · cases h
    · cases h

/-- A record is read from the last values that the members of an object have under its keys. -/
lemma lookup_normal (key : String) (ms : Members) :
    (sortMembers (normalMembers ms)).lookup key = (last? key ms).map normal :=
  lookup_sortMembers_normalMembers key ms

/-- If the id is broken the record is, and nobody is to blame for it. -/
lemma ofMembers_of_not_idOf (h : ∀ id, ¬ IdOf (last? "id" ms) id) :
    ∃ e, ofMembers (sortMembers (normalMembers ms)) = .error e ∧ e.blame = .nobody := by
  rw [ofMembers, lookup_normal]
  split
  · next e he => exact ⟨e, rfl, (blame_of_decodeId he).1⟩
  · next id hid => exact absurd (decodeId_eq_ok_iff.mp hid) (h id)

/-- A record with a method is a call, and one without is an answer. -/
lemma ofMembers_of_idOf (h : IdOf (last? "id" ms) id) :
    ofMembers (sortMembers (normalMembers ms)) = match last? "method" ms with
    | some method => decodeCall id (sortMembers (normalMembers ms)) method.normal
    | none        => decodeResponse id (sortMembers (normalMembers ms)) := by
  rw [ofMembers, lookup_normal, decodeId_eq_ok_iff.mpr h, lookup_normal]
  cases last? "method" ms <;> rfl

lemma normal_eq_null_iff {v : Json} : v.normal = .null ↔ v = .null := by
  cases v <;> simp [normal]

lemma normal_eq_string_iff {v : Json} {s : String} : v.normal = .string s ↔ v = .string s := by
  cases v <;> simp [normal]

lemma isRecord_of_decodeCall {raw : Json} (hid : IdOf (last? "id" ms) id)
    (hmethod : last? "method" ms = some raw)
    (h : decodeCall id (sortMembers (normalMembers ms)) raw.normal = .ok r) : IsRecord ms r := by
  obtain ⟨name, args, kwargs, hname, hargs, hkwargs, rfl⟩ := decodeCall_eq_ok_iff.mp h
  rw [lookup_normal] at hargs hkwargs
  obtain rfl := normal_eq_string_iff.mp hname
  have hargs : ArgsOf (last? "args" ms) args := decodeArgs?_eq_some_iff.mp hargs
  have hkwargs : KwargsOf (last? "kwargs" ms) kwargs := decodeKwargs?_eq_some_iff.mp hkwargs
  cases id with
  | none => exact .notification hid hmethod hargs hkwargs
  | some n => exact .request hid hmethod hargs hkwargs

lemma decodeCall_of_argsOf {name : String} {args : List Json} {kwargs : Members}
    (hargs : ArgsOf (last? "args" ms) args) (hkwargs : KwargsOf (last? "kwargs" ms) kwargs) :
    decodeCall id (sortMembers (normalMembers ms)) (.string name)
      = .ok (call id name args kwargs) := by
  refine decodeCall_eq_ok_iff.mpr ⟨name, args, kwargs, rfl, ?_, ?_, rfl⟩
  · rw [lookup_normal, decodeArgs?_eq_some_iff.mpr hargs]
  · rw [lookup_normal, decodeKwargs?_eq_some_iff.mpr hkwargs]

lemma isRecord_of_decodeResponse (hid : IdOf (last? "id" ms) id)
    (hmethod : last? "method" ms = none)
    (h : decodeResponse id (sortMembers (normalMembers ms)) = .ok r) : IsRecord ms r := by
  obtain ⟨n, rfl, hanswer⟩ := decodeResponse_eq_ok_iff.mp h
  simp only [lookup_normal, Option.map_eq_some_iff, Option.map_eq_none_iff] at hanswer
  rcases hanswer
    with ⟨_, ⟨error, herror, rfl⟩, hnull, rfl⟩ | ⟨_, hnull, ⟨result, hresult, rfl⟩, rfl⟩
  · exact .error hid hmethod herror fun h => hnull (normal_eq_null_iff.mpr h)
  · refine .result hid hmethod (hnull.imp_right ?_) hresult
    rintro ⟨error, herror, hnull⟩
    rw [herror, normal_eq_null_iff.mp hnull]

/-- The members are read as the record that they are, and as no other. -/
lemma ofMembers_eq_ok_iff :
    ofMembers (sortMembers (normalMembers ms)) = .ok r ↔ IsRecord ms r := by
  constructor
  · intro h
    have hid : ∃ id, IdOf (last? "id" ms) id := by
      by_contra hnone
      obtain ⟨e, he, -⟩ := ofMembers_of_not_idOf (not_exists.mp hnone)
      rw [he] at h
      cases h
    obtain ⟨id, hid⟩ := hid
    -- a record with an id is a call if it has a method, and else an answer
    rw [ofMembers_of_idOf hid] at h
    split at h
    · next raw hmethod => exact isRecord_of_decodeCall hid hmethod h
    · next hmethod => exact isRecord_of_decodeResponse hid hmethod h
  · intro h
    cases h with
    | request hid hmethod hargs hkwargs =>
      rw [ofMembers_of_idOf hid, hmethod]
      exact decodeCall_of_argsOf hargs hkwargs
    | notification hid hmethod hargs hkwargs =>
      rw [ofMembers_of_idOf hid, hmethod]
      exact decodeCall_of_argsOf hargs hkwargs
    | error hid hmethod herror hnull =>
      rw [ofMembers_of_idOf hid, hmethod]
      refine decodeResponse_eq_ok_iff.mpr ⟨_, rfl, .inl ⟨_, ?_, ?_, rfl⟩⟩
      · rw [lookup_normal, herror, Option.map_some]
      · exact fun h => hnull (normal_eq_null_iff.mp h)
    | result hid hmethod herror hresult =>
      rw [ofMembers_of_idOf hid, hmethod]
      refine decodeResponse_eq_ok_iff.mpr ⟨_, rfl, .inr ⟨_, ?_, ?_, rfl⟩⟩
      · rw [lookup_normal]
        exact herror.imp (congrArg (Option.map normal)) (congrArg (Option.map normal))
      · rw [lookup_normal, hresult, Option.map_some]

/-- With a right id the blame is on a request if there is a method, and else on what is
answered. -/
lemma blame_of_ofMembers (hid : IdOf (last? "id" ms) id)
    (h : ofMembers (sortMembers (normalMembers ms)) = .error e) :
    (last? "method" ms ≠ none → e.blame.answered? = none ∧ e.blame.asked? = id) ∧
      (last? "method" ms = none → e.blame.answered? = id ∧ e.blame.asked? = none) := by
  rw [ofMembers_of_idOf hid] at h
  cases hmethod : last? "method" ms with
  | none =>
    rw [hmethod] at h
    refine ⟨fun hsome => absurd rfl hsome, fun _ => ?_⟩
    rw [blame_of_decodeResponse h]
    cases id <;> exact ⟨rfl, rfl⟩
  | some method =>
    rw [hmethod] at h
    refine ⟨fun _ => ?_, nofun⟩
    rw [blame_of_decodeCall h]
    cases id <;> exact ⟨rfl, rfl⟩

/-! ### Members that count -/

def keys : List String := ["id", "method", "args", "kwargs", "error", "result"]

/-- No other members than those under the keys of records count. -/
lemma ofMembers_congr {ns ns' : Members} (h : ∀ key ∈ keys, ns.lookup key = ns'.lookup key) :
    ofMembers ns = ofMembers ns' := by
  simp only [keys, List.forall_mem_cons] at h
  obtain ⟨hid, hmethod, hargs, hkwargs, herror, hresult, -⟩ := h
  have hcall : ∀ id method, decodeCall id ns method = decodeCall id ns' method := by
    intro id method
    cases method <;> simp only [decodeCall, hargs, hkwargs]
  have hresponse : ∀ id, decodeResponse id ns = decodeResponse id ns' := by
    intro id
    simp only [decodeResponse, herror, hresult]
  simp only [ofMembers, hid, hmethod, hcall, hresponse]

/-- Bytes that spell no object are blamed on nobody. An object is read as the record that its
members are, and if they are none and its id is right, then it is blamed on a request: if it has
a method, on the one that it is, and else on the one that it answers. Of the members only the
last ones under the keys of records count. -/
theorem decoded_or_blamed (bs : Bytes) :
    ((∀ ms, ¬ Spells bs (.object ms)) →
        ∃ e, decode bs = .error e ∧ e.blame.answered? = none ∧ e.blame.asked? = none) ∧
      (∀ ms, Spells bs (.object ms) →
        (∀ r, decode bs = .ok r ↔ IsRecord ms r) ∧
        ∀ e, decode bs = .error e →
          ((∀ id, ¬ IdOf (last? "id" ms) id) → e.blame.answered? = none ∧
            e.blame.asked? = none) ∧
          ∀ id, IdOf (last? "id" ms) id →
            (last? "method" ms ≠ none → e.blame.answered? = none ∧ e.blame.asked? = id) ∧
            (last? "method" ms = none → e.blame.answered? = id ∧ e.blame.asked? = none)) ∧
      ∀ bs' ms ms', Spells bs (.object ms) → Spells bs' (.object ms') →
        (∀ key ∈ keys, last? key ms = last? key ms') → decode bs = decode bs' := by
  refine ⟨fun hnone => ?_, fun ms hspells => ?_, ?_⟩
  · -- the bytes spell no object
    obtain ⟨reason, he⟩ := decode_of_not_spells hnone
    exact ⟨_, he, rfl, rfl⟩
  · -- the bytes spell an object, whose id is broken or not
    rw [decode_of_spells hspells]
    refine ⟨fun r => ofMembers_eq_ok_iff, fun e h => ⟨fun hnone => ?_, ?_⟩⟩
    · obtain ⟨e', he, hblame⟩ := ofMembers_of_not_idOf hnone
      rw [he] at h
      cases h
      rw [hblame]
      exact ⟨rfl, rfl⟩
    · intro id hid
      exact blame_of_ofMembers hid h
  · -- only the last member of each key that is looked up matters
    intro bs' ms ms' hspells hspells' hkeys
    rw [decode_of_spells hspells, decode_of_spells hspells']
    refine ofMembers_congr fun key hkey => ?_
    rw [lookup_normal, lookup_normal, hkeys key hkey]

/-- A call whose method is no text and whose id comes twice, and two answers that differ in a
member that means nothing and in the order of the others. -/
theorem decoded_or_blamed_repeated :
    let call := Utf8.encode "\x7b\"id\":1,\"method\":5,\"id\":9\x7d"
    let answer := Utf8.encode ("\x7b\"spare\":[null],\"result\":\x7b\"b\":1,\"b\":2\x7d,"
      ++ "\"error\":null,\"id\":9\x7d")
    let answer' :=
      Utf8.encode "\x7b\"id\":9,\"error\":null,\"result\":\x7b\"b\":1,\"b\":2\x7d\x7d"
    (∃ e, decode call = .error e ∧ e.blame.answered? = none ∧ e.blame.asked? = some 9) ∧
      decode answer = .ok (.response 9 (.ok (.object [("b", nat 2)]))) ∧
        decode answer = decode answer' := by
  intro call answer answer'
  have hcall : Spells call (.object [("id", nat 1), ("method", nat 5), ("id", nat 9)]) :=
    ⟨_, Utf8.decode?_encode _, rfl, by decide⟩
  let result : Json := .object [("b", nat 1), ("b", nat 2)]
  let ms : Members :=
    [("spare", .array [.null]), ("result", result), ("error", .null), ("id", nat 9)]
  have hanswer : Spells answer (.object ms) := ⟨_, Utf8.decode?_encode _, rfl, by decide⟩
  have hanswer' : Spells answer'
      (.object [("id", nat 9), ("error", .null), ("result", result)]) :=
    ⟨_, Utf8.decode?_encode _, rfl, by decide⟩
  have hid : IdOf (some (nat 9)) (some 9) := .number (by decide)
  have hfails : decode call = .error ⟨.request 9, .methodNotString⟩ := by
    rw [decode_of_spells hcall]
    rfl
  have hrecord : IsRecord ms (.response 9 (.ok result.normal)) := .result hid rfl (.inr rfl) rfl
  obtain ⟨-, hbroken, -⟩ := decoded_or_blamed call
  obtain ⟨-, hread, hsame⟩ := decoded_or_blamed answer
  refine ⟨⟨_, hfails, ?_⟩, ((hread ms hanswer).1 _).mpr hrecord,
    hsame _ _ _ hanswer hanswer' (by decide)⟩
  exact (((hbroken _ hcall).2 _ hfails).2 _ hid).1 (by decide)

end Record

end RemoteDebugger
