import RemoteDebugger.Proofs.Json.Parser

/-!
# Values written and read

A canonical value whose numbers are whole is read back from its text, as long as it is nested no
deeper than texts may be. The members of the outermost object may come in any order: they are
read in order.
-/

namespace RemoteDebugger.Json

/-! ### The text of a value -/

/-- A key, a colon and a value. -/
lemma spelt_member (k : String) {v : Json} (h : Spelt v.tokens) :
    Spelt (.string k :: .colon :: v.tokens) := by
  have hkey : Closed [.string k, .colon] :=
    (closed_string k).spelt.append_mark (c := ':') rfl rfl
  exact hkey.append_spelt h

/-- What is spelt goes on after a comma. -/
lemma Spelt.append_comma {ts us : List Token} (ht : Spelt ts) (hu : Spelt us) :
    Spelt (ts ++ .comma :: us) := by
  have hcomma : Closed (ts ++ [.comma]) := ht.append_mark (c := ',') rfl rfl
  simpa using hcomma.append_spelt hu

/-- What stands between brackets. -/
lemma closed_bracket {ts : List Token} {l r : Token} {c d : Char} (h : Spelt ts)
    (hl : l.write = [c]) (hlmark : Token.ofPunctuation? c = some l) (hr : r.write = [d])
    (hrmark : Token.ofPunctuation? d = some r) : Closed (l :: ts ++ [r]) := by
  have hopen : Closed [l] := closed_nil.spelt.append_mark hl hlmark
  exact (hopen.append_spelt h).append_mark hr hrmark

mutual

/-- The tokens of a value are spelt by its text. -/
lemma spelt_tokens (v : Json) (h : v.Canonical Number.IsWhole) : Spelt v.tokens := by
  match v with
  | .null => exact spelt_null
  | .bool b => exact spelt_bool b
  | .number n => exact spelt_number h
  | .string s => exact (closed_string s).spelt
  | .array xs =>
    have hitems : Spelt (itemTokens xs) := spelt_itemTokens xs h
    exact (closed_bracket (c := '[') (d := ']') hitems rfl rfl rfl rfl).spelt
  | .object ms =>
    have hmembers : Spelt (memberTokens ms) := spelt_memberTokens ms h.2
    exact (closed_bracket (c := '\x7b') (d := '\x7d') hmembers rfl rfl rfl rfl).spelt

lemma spelt_itemTokens (xs : List Json) (h : CanonicalItems Number.IsWhole xs) :
    Spelt (itemTokens xs) := by
  match xs with
  | [] => exact closed_nil.spelt
  | [x] => exact spelt_tokens x h.1
  | x :: y :: xs => exact (spelt_tokens x h.1).append_comma (spelt_itemTokens (y :: xs) h.2)

lemma spelt_memberTokens (ms : Members) (h : CanonicalMembers Number.IsWhole ms) :
    Spelt (memberTokens ms) := by
  match ms with
  | [] => exact closed_nil.spelt
  | [(k, v)] => exact spelt_member k (spelt_tokens v h.1)
  | (k, v) :: m :: ms =>
    exact (spelt_member k (spelt_tokens v h.1)).append_comma (spelt_memberTokens (m :: ms) h.2)

end

/-! ### Reading the text of a value -/

/-- A value is read back from its text. -/
theorem parse?_write {v : Json} (h : v.Canonical Number.IsWhole) (hdepth : v.depth ≤ maxDepth) :
    parse? v.write = some v := by
  rw [parse?, write, String.toList_ofList, tokenize?_of_spelt (spelt_tokens v h)]
  exact (ofTokens?_tokens hdepth).trans (congrArg some (normal_of_canonical v h))

/-- The members of the outermost object are read in order. -/
lemma parse?_write_object {ms : Members} (h : ∀ m ∈ ms, m.2.Canonical Number.IsWhole)
    (hdepth : (object ms).depth ≤ maxDepth) :
    parse? (object ms).write = some (.object (sortMembers ms)) := by
  have hms : CanonicalMembers Number.IsWhole ms := canonicalMembers_iff.mpr h
  have hspelt : Spelt (object ms).tokens :=
    (closed_bracket (c := '\x7b') (d := '\x7d') (spelt_memberTokens ms hms) rfl rfl
      rfl rfl).spelt
  have hnormal : (object ms).normal = .object (sortMembers ms) := by
    rw [normal, normalMembers_of_canonical ms hms]
  rw [parse?, write, String.toList_ofList, tokenize?_of_spelt hspelt]
  exact (ofTokens?_tokens hdepth).trans (congrArg some hnormal)

/-- What is read is canonical and not nested too deep, and its numbers are whole if there is no
double among the tokens. -/
lemma canonical_of_parse? {s : String} {v : Json} (h : parse? s = some v)
    (hwhole : ∀ ts, tokenize? s.toList = some ts → ∀ x, .number (.double x) ∉ ts) :
    v.Canonical Number.IsWhole ∧ v.depth ≤ maxDepth := by
  obtain ⟨ts, hts, h⟩ := Option.bind_eq_some_iff.mp h
  have hnumbers : NumbersIn (fun n => n.IsWhole ∨ ∃ x, n = .double x) ts :=
    numbersIn_tokenize? (fun w n => Number.ofWord?_eq_some) hts
  have hwholes : NumbersIn Number.IsWhole ts := by
    intro n hn
    rcases hnumbers n hn with hn | ⟨x, rfl⟩
    · exact hn
    · exact absurd hn (hwhole ts hts x)
  exact canonical_of_ofTokens? hwholes h

end RemoteDebugger.Json
