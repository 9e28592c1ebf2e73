import RemoteDebugger.Proofs.Json.RoundTrip
import RemoteDebugger.Proofs.Record.Decoding
import RemoteDebugger.Record.Encoding

/-!
# Records written and read

A record whose numbers are whole is read back from its bytes, unless it is nested too deep. What
is read from bytes without doubles is such a record, whichever order, spares and repetitions the
bytes have.
-/

namespace RemoteDebugger

open Json

/-- The code, if there is one, is a signed number of 64 bits. -/
def RemoteError.WellFormed (e : RemoteError) : Prop :=
  ∀ c, e.code = some c → -(Number.maxNegative : Int) ≤ c ∧ c < Number.maxNegative

namespace Record

/-- The id is an unsigned number of 64 bits, all numbers are whole, and all objects are in
order. -/
def WellFormed : Record → Prop
  | .request id _ args kwargs =>
    id ≤ Numeral.max64 ∧ (Json.array args).Canonical Number.IsWhole ∧
      (Json.object kwargs).Canonical Number.IsWhole
  | .notification _ args kwargs =>
    (Json.array args).Canonical Number.IsWhole ∧ (Json.object kwargs).Canonical Number.IsWhole
  | .response id (.ok result) => id ≤ Numeral.max64 ∧ result.Canonical Number.IsWhole
  | .response id (.error e)   => id ≤ Numeral.max64 ∧ e.WellFormed

/-- How many arrays and objects are nested in the text of the record. -/
def depth (r : Record) : Nat := (Json.object r.members).depth

/-! ### Members of a record -/

/-- A number of 64 bits is read back as it is written. -/
lemma canonical_nat {n : Nat} (h : n ≤ Numeral.max64) : (Json.nat n).Canonical Number.IsWhole :=
  ⟨by simp only [Number.maxNegative]; omega, by exact_mod_cast h⟩

/-- The JSON of a well-formed error is read back as it is written. -/
lemma canonical_toJson {e : RemoteError} (h : e.WellFormed) :
    e.toJson.Canonical Number.IsWhole := by
  obtain ⟨code, message⟩ := e
  rw [RemoteError.toJson, canonical_object]
  cases code with
  | none => simp [Sorted, Canonical]
  | some c =>
    have hc := h c rfl
    have hwhole : (Number.int c).IsWhole :=
      ⟨hc.1, by simp only [Number.maxNegative, Numeral.max64] at *; omega⟩
    have hkeys : "code" < "message" := by decide
    refine ⟨List.pairwise_pair.mpr hkeys, ?_⟩
    simp [Canonical, hwhole]

/-- What holds of the parts of a call holds of its members. -/
lemma forall_mem_callMembers {Q : Json → Prop} {id : Json} {method : String} {args : List Json}
    {kwargs : Members} (hid : Q id) (hmethod : Q (.string method)) (hargs : Q (.array args))
    (hkwargs : Q (.object kwargs)) : ∀ m ∈ callMembers id method args kwargs, Q m.2 := by
  intro m hm
  rcases List.mem_append.mp hm with hm | hm
  · simp only [List.mem_cons, List.not_mem_nil, or_false] at hm
    rcases hm with rfl | rfl | rfl
    · exact hid
    · exact hmethod
    · exact hargs
  · split_ifs at hm
    · cases hm
    · rw [List.mem_singleton.mp hm]
      exact hkwargs

lemma forall_mem_pair {Q : Json → Prop} {k l : String} {v w : Json} (hv : Q v) (hw : Q w) :
    ∀ m ∈ [(k, v), (l, w)], Q m.2 :=
  List.forall_mem_cons.mpr ⟨hv, List.forall_mem_singleton.mpr hw⟩

/-- The members of a well-formed record are read back as they are written. -/
lemma canonical_members {r : Record} (h : r.WellFormed) :
    ∀ m ∈ r.members, m.2.Canonical Number.IsWhole := by
  match r with
  | .request id method args kwargs =>
    exact forall_mem_callMembers (canonical_nat h.1) trivial h.2.1 h.2.2
  | .notification method args kwargs => exact forall_mem_callMembers trivial trivial h.1 h.2
  | .response id (.ok result) => exact forall_mem_pair (canonical_nat h.1) h.2
  | .response id (.error e) => exact forall_mem_pair (canonical_nat h.1) (canonical_toJson h.2)

/-- A value that is not too deep for a member of a record. -/
def Shallow (v : Json) : Prop := v.depth ≤ maxDepth - 1

/-- A record is nested as deep as the deepest of its members, in one object more. -/
lemma depth_le_iff {r : Record} : r.depth ≤ maxDepth ↔ ∀ m ∈ r.members, Shallow m.2 := by
  have hmembers : (∀ m ∈ r.members, Shallow m.2) ↔ membersDepth r.members ≤ maxDepth - 1 :=
    membersDepth_le_iff.symm
  rw [hmembers, depth, Json.depth]
  simp only [maxDepth]
  omega

/-! ### Reading what was written -/

lemma decodeId_nat {n : Nat} (h : n ≤ Numeral.max64) :
    decodeId (some (Json.nat n)) = .ok (some n) := by
  simp [decodeId, Json.nat, Json.toNat?, Number.toNat?, h]

lemma decodeId_null : decodeId (some .null) = .ok none := rfl

/-- An error is read back from its value. -/
lemma ofJson_toJson {e : RemoteError} (h : e.WellFormed) : RemoteError.ofJson e.toJson = e := by
  obtain ⟨code, message⟩ := e
  cases code with
  | none => simp [RemoteError.toJson, RemoteError.ofJson, lookup_cons_eq_ite, Json.text]
  | some c =>
    simp [RemoteError.toJson, RemoteError.ofJson, lookup_cons_eq_ite, Json.text,
      Number.toInt64?, h c rfl]

/-- A call is read back from its members, put in order. -/
lemma ofMembers_callMembers {id : Json} {n : Option RequestId} (hid : decodeId (some id) = .ok n)
    (method : String) (args : List Json) (kwargs : Members) :
    ofMembers (sortMembers (callMembers id method args kwargs))
      = .ok (call n method args kwargs) := by
  simp only [ofMembers, lookup_sortMembers]
  cases kwargs with
  | nil =>
    simp [callMembers, lookup_cons_eq_ite, hid, decodeCall, lookup_sortMembers, decodeArgs?,
      decodeKwargs?]
  | cons m ms =>
    simp [callMembers, lookup_cons_eq_ite, hid, decodeCall, lookup_sortMembers, decodeArgs?,
      decodeKwargs?]

/-- A record is read back from its members, put in order. -/
lemma ofMembers_sortMembers {r : Record} (h : r.WellFormed) :
    ofMembers (sortMembers r.members) = .ok r := by
  match r with
  | .request id method args kwargs =>
    exact ofMembers_callMembers (decodeId_nat h.1) method args kwargs
  | .notification method args kwargs =>
    exact ofMembers_callMembers decodeId_null method args kwargs
  | .response id (.ok result) =>
    simp only [ofMembers, lookup_sortMembers]
    simp [members, lookup_cons_eq_ite, decodeId_nat h.1, decodeResponse, lookup_sortMembers]
  | .response id (.error e) =>
    obtain ⟨ms, hms⟩ : ∃ ms, e.toJson = .object ms := ⟨_, rfl⟩
    have herror : RemoteError.ofJson (.object ms) = e := hms ▸ ofJson_toJson h.2
    simp only [ofMembers, lookup_sortMembers]
    simp [members, lookup_cons_eq_ite, decodeId_nat h.1, decodeResponse,
      lookup_sortMembers, hms, herror]

/-- A record is read back from its bytes. -/
lemma decode_encode {r : Record} (h : r.WellFormed) (hdepth : r.depth ≤ maxDepth) :
    decode (encode r) = .ok r := by
  have hparse : parse? r.text = some (.object (sortMembers r.members)) :=
    parse?_write_object (canonical_members h) hdepth
  rw [decode, encode, Utf8.decode?_encode, Option.bind_some, hparse]
  exact ofMembers_sortMembers h

/-! ### What is read -/

lemma le_of_toNat? {v : Json} {n : Nat} (h : v.toNat? = some n) : n ≤ Numeral.max64 := by
  match v with
  | .number (.int i) =>
    rw [Json.toNat?, Number.toNat?] at h
    split_ifs at h with hi
    cases h
    exact hi.2

/-- An id that is decoded has 64 bits. -/
lemma id_le_of_decodeId {v : Option Json} {id : RequestId} (h : decodeId v = .ok (some id)) :
    id ≤ Numeral.max64 := by
  simp only [decodeId] at h
  split at h
  · cases h
  · cases h
  · split at h
    · next n hn =>
      cases h
      exact le_of_toNat? hn
    · cases h

/-- The code of an error that was read is a signed number of 64 bits. -/
lemma wellFormed_ofJson (v : Json) : (RemoteError.ofJson v).WellFormed := by
  intro c hc
  simp only [RemoteError.ofJson] at hc
  split at hc
  · cases hc
  · simp only at hc
    split at hc
    · next n _ =>
      cases n with
      | int i =>
        rw [Number.toInt64?] at hc
        split_ifs at hc with hi
        cases hc
        exact hi
      | double x => cases hc
    · cases hc
  · cases hc

lemma shallow_toJson (e : RemoteError) : Shallow e.toJson := by
  cases hcode : e.code <;>
    simp [Shallow, RemoteError.toJson, hcode, Json.depth, membersDepth, maxDepth]

variable {ms : Members}

/-- A value that may stand in a record, which is an object. -/
abbrev FitsMember (v : Json) : Prop := v.Canonical Number.IsWhole ∧ 1 + v.depth ≤ maxDepth

lemma fits_of_lookup (hms : ∀ m ∈ ms, FitsMember m.2) {k : String} {v : Json}
    (h : ms.lookup k = some v) : FitsMember v := by
  obtain ⟨before, after, rfl, -⟩ := List.lookup_eq_some_iff.mp h
  exact hms (k, v) (List.mem_append_right before List.mem_cons_self)

lemma fits_of_decodeArgs? (hms : ∀ m ∈ ms, FitsMember m.2) {args : List Json}
    (h : decodeArgs? (ms.lookup "args") = some args) : FitsMember (.array args) := by
  have hnone : FitsMember (.array []) := ⟨trivial, by decide⟩
  simp only [decodeArgs?] at h
  split at h
  · cases h
    exact hnone
  · cases h
    exact hnone
  · next hlookup =>
    cases h
    exact fits_of_lookup hms hlookup
  · cases h

lemma fits_of_decodeKwargs? (hms : ∀ m ∈ ms, FitsMember m.2) {kwargs : Members}
    (h : decodeKwargs? (ms.lookup "kwargs") = some kwargs) : FitsMember (.object kwargs) := by
  have hnone : FitsMember (.object []) := ⟨⟨List.Pairwise.nil, trivial⟩, by decide⟩
  simp only [decodeKwargs?] at h
  split at h
  · cases h
    exact hnone
  · cases h
    exact hnone
  · next hlookup =>
    cases h
    exact fits_of_lookup hms hlookup
  · cases h

/-- A call that is decoded is well-formed, if its members fit. -/
lemma wellFormed_of_decodeCall (hms : ∀ m ∈ ms, FitsMember m.2) {id : Option RequestId}
    (hid : ∀ n, id = some n → n ≤ Numeral.max64) {method : Json} {r : Record}
    (h : decodeCall id ms method = .ok r) : r.WellFormed ∧ r.depth ≤ maxDepth := by
  obtain ⟨name, args, kwargs, rfl, hargs, hkwargs, rfl⟩ := decodeCall_eq_ok_iff.mp h
  have hargs : FitsMember (.array args) := fits_of_decodeArgs? hms hargs
  have hkwargs : FitsMember (.object kwargs) := fits_of_decodeKwargs? hms hkwargs
  have hshallow : ∀ v : Json, FitsMember v → Shallow v := fun v hv => Nat.le_sub_of_add_le' hv.2
  have hnull : Shallow .null := Nat.zero_le _
  have hnat : ∀ n, Shallow (Json.nat n) := fun n => Nat.zero_le _
  have hstring : ∀ s, Shallow (.string s) := fun s => Nat.zero_le _
  cases id with
  | none =>
    refine ⟨⟨hargs.1, hkwargs.1⟩, depth_le_iff.mpr ?_⟩
    exact forall_mem_callMembers hnull (hstring _) (hshallow _ hargs) (hshallow _ hkwargs)
  | some n =>
    refine ⟨⟨hid n rfl, hargs.1, hkwargs.1⟩, depth_le_iff.mpr ?_⟩
    exact forall_mem_callMembers (hnat n) (hstring _) (hshallow _ hargs) (hshallow _ hkwargs)

/-- An answer that is decoded is well-formed, if its members fit. -/
lemma wellFormed_of_decodeResponse (hms : ∀ m ∈ ms, FitsMember m.2) {id : Option RequestId}
    (hid : ∀ n, id = some n → n ≤ Numeral.max64) {r : Record}
    (h : decodeResponse id ms = .ok r) :
    r.WellFormed ∧ r.depth ≤ maxDepth := by
  have hnat : ∀ n, Shallow (Json.nat n) := fun n => Nat.zero_le _
  obtain ⟨n, rfl, ⟨error, -, -, rfl⟩ | ⟨result, -, hresult, rfl⟩⟩ :=
    decodeResponse_eq_ok_iff.mp h
  · exact ⟨⟨hid n rfl, wellFormed_ofJson error⟩,
      depth_le_iff.mpr (forall_mem_pair (hnat n) (shallow_toJson _))⟩
  · have hv : FitsMember result := fits_of_lookup hms hresult
    have hshallow : Shallow result := Nat.le_sub_of_add_le' hv.2
    exact ⟨⟨hid n rfl, hv.1⟩, depth_le_iff.mpr (forall_mem_pair (hnat n) hshallow)⟩

/-- A record that was read is well formed, and it is nested no deeper than texts may be. -/
lemma wellFormed_of_ofMembers (hms : ∀ m ∈ ms, FitsMember m.2) {r : Record}
    (h : ofMembers ms = .ok r) : r.WellFormed ∧ r.depth ≤ maxDepth := by
  simp only [ofMembers] at h
  split at h
  · cases h
  · next id hid =>
    have hid : ∀ n, id = some n → n ≤ Numeral.max64 := by
      rintro n rfl
      exact id_le_of_decodeId hid
    split at h
    · exact wellFormed_of_decodeCall hms hid h
    · exact wellFormed_of_decodeResponse hms hid h

/-! ### The round trip -/

/-- Whether a payload has a double among its tokens. -/
def hasDouble (b : Bytes) : Bool :=
  match (Utf8.decode? b).bind fun s => tokenize? s.toList with
  | some ts => ts.any fun
    | .number (.double _) => true
    | _                   => false
  | none    => false

/-- A record that is decoded from a text without doubles is well-formed. -/
lemma wellFormed_of_decode {b : Bytes} {r : Record} (h : decode b = .ok r)
    (hdouble : hasDouble b = false) : r.WellFormed ∧ r.depth ≤ maxDepth := by
  simp only [decode] at h
  split at h
  · next v hv =>
    obtain ⟨s, hs, hv⟩ := Option.bind_eq_some_iff.mp hv
    have hwhole : ∀ ts, tokenize? s.toList = some ts → ∀ x, .number (.double x) ∉ ts := by
      intro ts hts x hx
      simp only [hasDouble, hs, Option.bind_some, hts] at hdouble
      exact absurd (List.any_eq_false.mp hdouble _ hx) (by simp)
    obtain ⟨hcanonical, hdepth⟩ := canonical_of_parse? hv hwhole
    cases v with
    | object ms =>
      obtain ⟨-, hms⟩ := canonical_object.mp hcanonical
      have hshallow : ∀ m ∈ ms, m.2.depth ≤ maxDepth - 1 :=
        membersDepth_le_iff.mp (Nat.le_sub_of_add_le hdepth)
      exact wellFormed_of_ofMembers
        (fun m hm => ⟨hms m hm, Nat.add_le_of_le_sub' (by decide) (hshallow m hm)⟩) h
    | _ => cases h
  · cases h

/-- A record is read back from its bytes, and so is whatever was read from bytes without
doubles. -/
theorem round_trip :
    (∀ r : Record, r.WellFormed → r.depth ≤ maxDepth → decode (encode r) = .ok r) ∧
      ∀ (b : Bytes) (r : Record), decode b = .ok r → hasDouble b = false →
        decode (encode r) = .ok r := by
  constructor
  · intro r h hdepth
    exact decode_encode h hdepth
  · intro b r hb hdouble
    obtain ⟨h, hdepth⟩ := wellFormed_of_decode hb hdouble
    exact decode_encode h hdepth

/-- A request with keyword arguments, and an answer from bytes that repeat a key, spell a
character as a code unit, and have a member that means nothing. -/
theorem round_trip_request_and_answer :
    decode (encode (.request 7 "do_eval" [.string "\n"] [("frame", nat 0)]))
        = .ok (.request 7 "do_eval" [.string "\n"] [("frame", nat 0)]) ∧
      decode (encode
        (.response 9 (.ok (.object [("a", .string "é"), ("b", .number (.int (-1)))]))))
        = .ok (.response 9
          (.ok (.object [("a", .string "é"), ("b", .number (.int (-1)))]))) := by
  constructor
  · refine round_trip.1 _ ⟨by decide, ⟨trivial, trivial⟩, ?_, ?_, trivial⟩ (by decide)
    · exact List.pairwise_singleton _ _
    · exact canonical_nat (by decide)
  · exact round_trip.2 (Utf8.encode ("\x7b\"id\":7,\"spare\":[null],\"id\":9,\"error\":null,"
      ++ "\"result\":\x7b\"b\":-1,\"a\":\"\\u00e9\"\x7d\x7d")) _ rfl rfl

end Record

end RemoteDebugger
