import QueryShell.Proofs.Query.Acceptance
import QueryShell.Proofs.Text.Boundary

/-!
# Where the faults of query texts lie

A query text that is refused has an error with an offset and, if it got that
far, the index of a call. Two readers find the faults, one of queries and one of
literals, and they count their offsets from different places. What a user sees
is right all the same: the offset is one of the query text and lies behind the
calls that were read before, as many as the index says.

That these calls were read does not depend on the fault behind them. The text up
to the last of them has a form (`Form`), namely that of the calls that were
read, and so it is accepted as just these calls.

## Main statements

* `Query.exists_of_readCalls_error`: a fault in a chain of calls, and the calls
  before it.
* `Query.parse_error_localised`: the error of a query text.
-/

namespace QueryShell.Query

open Text

variable {base : Nat} {text : List Char} {index : Nat}

/-- **What the reader has read** of a query text when it stops, be it at a fault
or at the end of the text: nothing before it knows the collection, and then the
collection and the calls. -/
def queryRead (text : List Char) : Option Query :=
  let stripped := dropEndWhile isTail text
  if stripped.isEmpty then none
  else
    let start := byteLength (stripped.takeWhile isBlank)
    match Target.read start (stripped.dropWhile isBlank) with
    | .error _ => none
    | .ok t => some ⟨String.ofList t.collection,
        callsRead t.restStart t.rest .outside (Token.tokenizeAt t.restStart t.rest)⟩

/-! ## The calls before a fault -/

section

variable {pos : Nat} {fs : List CallForm} {calls : List Call}

theorem CallsDenote.length_eq (h : CallsDenote pos fs calls) : calls.length = fs.length := by
  induction h with
  | nil => rfl
  | cons _ _ ih => rw [List.length_cons, List.length_cons, ih]

/-- Calls end before the offset where the text behind them begins. -/
theorem CallsDenote.stop_le (h : CallsDenote pos fs calls) :
    ∀ c ∈ calls, c.span.stop ≤ pos + byteLength (fs.flatMap CallForm.chars) := by
  induction h with
  | nil => exact List.forall_mem_nil _
  | @cons pos f fs c cs h _ ih =>
    rw [List.flatMap_cons, byteLength_append, ← Nat.add_assoc]
    refine List.forall_mem_cons.mpr ⟨?_, ih⟩
    rw [h.span, f.byteLength_chars]
    dsimp only
    omega

/-- The last call ends where the text behind the calls begins. -/
theorem CallsDenote.getLast?_stop (h : CallsDenote pos fs calls) (hne : fs ≠ []) :
    calls.getLast?.map (·.span.stop) = some (pos + byteLength (fs.flatMap CallForm.chars)) := by
  induction h with
  | nil => exact absurd rfl hne
  | @cons pos f fs c cs h hs ih =>
    rw [List.flatMap_cons, byteLength_append, ← Nat.add_assoc]
    cases hs with
    | nil =>
      rw [List.getLast?_singleton, Option.map_some, h.span, f.byteLength_chars]
      simp [Nat.add_assoc]
    | cons _ _ =>
      rw [List.getLast?_cons_cons]
      exact ih (List.cons_ne_nil _ _)

end

theorem exists_eq_append_closer {fs : List CallForm} (hne : fs ≠ []) :
    ∃ x, fs.flatMap CallForm.chars = x ++ [')'] := by
  obtain ⟨gs, g, rfl⟩ := List.eq_nil_or_concat fs |>.resolve_left hne
  refine ⟨gs.flatMap CallForm.chars ++ (g.opening ++ g.args), ?_⟩
  rw [List.concat_eq_append, List.flatMap_append, List.flatMap_singleton, g.chars_eq_opening]
  simp

/-- **A fault in a chain of calls** lies behind the calls that were read, and
names the one behind them unless there is no call but something else. -/
theorem exists_of_readCalls_error {pre cs : List Char} {r : Bool} {e : QueryError}
    (htext : text = pre ++ cs) (h : readCalls base text index .outside
      (Token.tokenizeFrom (base + byteLength pre) r cs) = .error e) :
    ∃ fs a b, cs = fs.flatMap CallForm.chars ++ (a ++ b) ∧ (∀ f ∈ fs, f.IsCall) ∧
      CallsDenote (base + byteLength pre) fs
        (callsRead base text .outside (Token.tokenizeFrom (base + byteLength pre) r cs)) ∧
      e.offset = some (base + byteLength pre + byteLength (fs.flatMap CallForm.chars ++ a)) ∧
      (e.callIndex = some (index + fs.length) ∨ e.callIndex = none ∧ e.kind = .malformedQuery) := by
  -- each call that was read is one step
  induction hcalls : callsRead base text .outside (Token.tokenizeFrom (base + byteLength pre) r cs)
    generalizing pre cs r index with
  | nil =>
    have hstep : Step base text index pre cs _ _ := step_readCalls htext r
    rw [h, hcalls] at hstep
    generalize hresult : Except.error e = result at hstep
    cases hstep with
    | done => cases hresult
    | @fault a b _ hcs hoffset hindex =>
      cases hresult
      exact ⟨[], a, b, hcs, List.forall_mem_nil _, .nil, hoffset, hindex⟩
  | cons c calls ih =>
    have hstep : Step base text index pre cs _ _ := step_readCalls htext r
    rw [h, hcalls] at hstep
    generalize hresult : Except.error e = result at hstep
    generalize hread : c :: calls = read at hstep
    cases hstep with
    | done => cases hread
    | fault => cases hread
    | @call f b d hf hcs hd =>
      have hpos : base + byteLength pre + byteLength f.chars = base + byteLength (pre ++ f.chars) := by
        rw [byteLength_append, Nat.add_assoc]
      have hrest := map_eq_error.mp (bind_ok_eq_map.symm.trans hresult.symm)
      rw [hpos] at hrest hread
      obtain ⟨rfl, hcalls⟩ := List.cons.inj hread
      obtain ⟨fs, x, y, rfl, hfs, hds, hoffset, hindex⟩ :=
        ih (by rw [htext, hcs, List.append_assoc]) hrest hcalls.symm
      refine ⟨f :: fs, x, y, ?_, List.forall_mem_cons.mpr ⟨hf, hfs⟩, .cons hd ?_, ?_, ?_⟩
      · rw [hcs, List.flatMap_cons, List.append_assoc]
      · rwa [hpos, ← hcalls]
      · rw [hoffset, List.flatMap_cons, ← hpos, List.append_assoc, byteLength_append f.chars,
          Nat.add_assoc (base + byteLength pre)]
      · rwa [List.length_cons, Nat.add_comm fs.length, ← Nat.add_assoc]

/-! ## The target -/

/-- What is wrong in front of the calls lies on a boundary. -/
theorem exists_of_target_read_error {start offset : Nat} {cs : List Char} {f : Fault}
    (h : Target.read start cs = .error (f, offset)) :
    f.kind = .malformedQuery ∧ ∃ a b, cs = a ++ b ∧ offset = start + byteLength a := by
  unfold Target.read at h
  split at h
  · next afterDb =>
    split at h
    · cases h
      exact ⟨rfl, [], _, rfl, rfl⟩
    · dsimp only at h
      split at h
      · next afterDot hdot =>
        split at h
        · cases h
          refine ⟨rfl, 'd' :: 'b' :: (afterDb.takeWhile isBlank ++ '.' :: afterDot.takeWhile isBlank),
            afterDot.dropWhile isBlank, ?_, ?_⟩
          · have hdrop := afterDb.takeWhile_append_dropWhile (p := isBlank)
            rw [hdot] at hdrop
            rw [List.cons_append, List.cons_append, List.append_assoc, List.cons_append,
              List.takeWhile_append_dropWhile, hdrop]
          · have hlen := add_byteLength_target start (afterDb.takeWhile isBlank)
              (afterDot.takeWhile isBlank) []
            rwa [List.append_nil] at hlen
        · cases h
      · cases h
        exact ⟨rfl, [], _, rfl, rfl⟩
  · cases h
    exact ⟨rfl, [], _, rfl, rfl⟩

/-! ## The whole text -/

/-- What was read of an accepted query is the query. -/
theorem queryRead_of_read {q : Query} (h : read text = .ok q) : queryRead text = some q := by
  unfold read at h
  unfold queryRead
  dsimp only at h ⊢
  split at h
  · cases h
  next hne =>
  rw [if_neg hne]
  split at h
  · cases h
  next t htarget =>
  rw [htarget]
  obtain ⟨calls, hcalls, hq⟩ := bind_eq_ok.mp h
  split at hq
  · cases hq
  · cases hq
    exact congrArg (fun calls => some (Query.mk _ calls))
      (callsRead_of_readCalls (show t.rest = [] ++ t.rest from rfl) hcalls)

/-- **Where the fault of a query text lies**: on a boundary of the text. Where
it names a call, the text in front of it begins with a form of what was read
before. -/
theorem exists_of_read_error {e : QueryError} (h : read text = .error e) :
    ∃ a b, text = a ++ b ∧ e.offset = some (byteLength a) ∧
      (e.callIndex = none ∧ e.kind = .malformedQuery ∨
        ∃ (f : Form) (q : Query) (x : List Char), queryRead text = some q ∧ f.Denotes q ∧
          (f.calls ≠ [] → f.IsQuery) ∧ f.tail = [] ∧ e.callIndex = some f.calls.length ∧
          a = f.chars ++ x) := by
  obtain ⟨tail, ht, -⟩ := dropEndWhile_append_rest isTail text
  unfold read at h
  unfold queryRead
  dsimp only at h ⊢
  generalize dropEndWhile isTail text = stripped at h ht ⊢
  split at h
  · cases h
    exact ⟨[], text, rfl, rfl, .inl ⟨rfl, rfl⟩⟩
  next hne =>
  rw [if_neg hne]
  have hstripped := stripped.takeWhile_append_dropWhile (p := isBlank)
  split at h
  · next f offset htarget =>
    cases h
    obtain ⟨hkind, a, b, hab, rfl⟩ := exists_of_target_read_error htarget
    refine ⟨stripped.takeWhile isBlank ++ a, b ++ tail, ?_, ?_, .inl ⟨rfl, hkind⟩⟩
    · conv_lhs => rw [ht, ← hstripped, hab]
      simp
    · exact congrArg some (byteLength_append _ _).symm
  next t htarget =>
  cases hread : readCalls t.restStart t.rest 0 .outside (Token.tokenizeAt t.restStart t.rest) with
  | ok calls =>
    rw [hread] at h
    replace h : (if calls.isEmpty = true then _ else _) = Except.error e := h
    split at h
    · cases h
      exact ⟨stripped, tail, ht, rfl, .inl ⟨rfl, rfl⟩⟩
    · cases h
  | error e' =>
    rw [hread] at h
    cases h
    rw [htarget]
    obtain ⟨w, w', hw, hw', hc, hcne, hcs, hstart⟩ := exists_parts_of_target_read htarget
    obtain ⟨fs, a, b, hrest, hfs, hds, hoffset, hindex⟩ :=
      exists_of_readCalls_error (show t.rest = [] ++ t.rest from rfl) hread
    rw [byteLength_nil, Nat.add_zero] at hds hoffset
    let f : Form := ⟨stripped.takeWhile isBlank, w, w', t.collection, fs, []⟩
    have htarget : t.restStart = byteLength f.target := by
      rw [hstart, Form.target, byteLength_append]
    have hchars : f.chars = f.target ++ fs.flatMap CallForm.chars := by
      rw [Form.chars, List.append_nil]
    refine ⟨f.chars ++ a, b ++ tail, ?_, ?_, ?_⟩
    · conv_lhs => rw [ht, ← hstripped, hcs, hrest]
      rw [hchars, Form.target]
      simp [f]
    · rw [hoffset, hchars, htarget, List.append_assoc, byteLength_append f.target]
    · refine hindex.symm.imp_right fun hi => ⟨f, _, a, rfl, ⟨rfl, ?_⟩, fun hcalls => ?_, rfl, ?_, rfl⟩
      · rw [← htarget]
        exact hds
      · exact ⟨List.all_eq_true.mp List.all_takeWhile, hw, hw', hc, hcne, hfs, hcalls,
          List.forall_mem_nil _⟩
      · rwa [Nat.zero_add] at hi

/-- **The error of a query text is localised.** It carries the text and an
offset on a boundary of it. Without the index of a call the query is malformed.
With the index `i` the offset lies behind the `i` calls that were read before,
and the text up to the closing parenthesis of the last of them is accepted as
what was read: the collection and these calls. -/
theorem parse_error_localised {input : String} {e : QueryError} (h : parse input = .error e) :
    e.query = input ∧ ∃ o, e.offset = some o ∧ o ≤ byteLength input.toList ∧
      IsBoundary o input.toList ∧
      (e.callIndex = none → e.kind = .malformedQuery) ∧
      (e.kind = .unterminatedLiteral → ∃ i, e.callIndex = some i) ∧
      ∀ i, e.callIndex = some i → ∃ q, queryRead input.toList = some q ∧ q.calls.length = i ∧
        (∀ c ∈ q.calls, c.span.stop ≤ o) ∧
        (0 < i → ∃ pre post, input.toList = pre ++ ')' :: post ∧
          q.calls.getLast?.map (·.span.stop) = some (byteLength (pre ++ [')'])) ∧
          parse (String.ofList (pre ++ [')'])) = .ok q) := by
  unfold parse at h
  split at h
  · cases h
  next e' herror =>
  cases h
  obtain ⟨a, b, htext, hoffset, hcase⟩ := exists_of_read_error herror
  have hboundary : IsBoundary (byteLength a) input.toList := htext ▸ isBoundary_byteLength a b
  refine ⟨rfl, byteLength a, hoffset, hboundary.le, hboundary, ?_⟩
  rcases hcase with ⟨hnone, hkind⟩ | ⟨f, q, x, hread, hd, hquery, htail, hindex, rfl⟩
  · refine ⟨fun _ => hkind, fun hopen => ?_, fun i hi => ?_⟩
    · cases hkind.symm.trans hopen
    · cases hnone.symm.trans hi
  have hchars : f.chars = f.target ++ f.calls.flatMap CallForm.chars := by
    rw [Form.chars, htail, List.append_nil]
  have hlen : byteLength f.target + byteLength (f.calls.flatMap CallForm.chars) = byteLength f.chars := by
    rw [hchars, byteLength_append]
  refine ⟨fun hnone => ?_, fun _ => ⟨_, hindex⟩, fun i hi => ?_⟩
  · cases hindex.symm.trans hnone
  obtain rfl : f.calls.length = i := Option.some.inj (hindex.symm.trans hi)
  refine ⟨q, hread, hd.calls.length_eq, fun c hc => ?_, fun hpos => ?_⟩
  · rw [byteLength_append, ← hlen]
    exact Nat.le_trans (hd.calls.stop_le c hc) (Nat.le_add_right _ _)
  · have hne : f.calls ≠ [] := List.length_pos_iff.mp hpos
    obtain ⟨y, hy⟩ := exists_eq_append_closer hne
    have hform : f.target ++ y ++ [')'] = f.chars := by
      rw [hchars, hy, List.append_assoc]
    refine ⟨f.target ++ y, x ++ b, ?_, ?_, ?_⟩
    · rw [htext, ← hform]
      simp
    · rw [hform, ← hlen]
      exact hd.calls.getLast?_stop hne
    · rw [hform, parse_eq_ok_iff, String.toList_ofList]
      exact read_of_form (hquery hne) hd

/-- A string in the third call is never closed. The two calls before it, one
with a parenthesis inside a string, are still read. -/
theorem parse_error_localised_third_call : ∃ e q pre post,
    parse r"db.a.find('(').limit(1) .sort({b: '" = .error e ∧
      e.kind = .unterminatedLiteral ∧ e.offset = some 34 ∧ e.callIndex = some 2 ∧
      queryRead r"db.a.find('(').limit(1) .sort({b: '".toList = some q ∧ q.calls.length = 2 ∧
      r"db.a.find('(').limit(1) .sort({b: '".toList = pre ++ ')' :: post ∧
      parse (String.ofList (pre ++ [')'])) = .ok q := by
  have hread : ((parse r"db.a.find('(').limit(1) .sort({b: '").map fun _ => ()) =
      .error ⟨.unterminatedLiteral, "string literal is never closed",
        r"db.a.find('(').limit(1) .sort({b: '", some 34, some 2, none⟩ := by
    decide +kernel
  cases h : parse r"db.a.find('(').limit(1) .sort({b: '" with
  | ok q =>
    rw [h] at hread
    cases hread
  | error e =>
    rw [h] at hread
    cases hread
    obtain ⟨-, o, -, -, -, -, -, hcalls⟩ := parse_error_localised h
    obtain ⟨q, hq, hlen, -, hprefix⟩ := hcalls 2 rfl
    obtain ⟨pre, post, hsplit, -, hparse⟩ := hprefix Nat.two_pos
    exact ⟨_, q, pre, post, rfl, rfl, rfl, rfl, hq, hlen, hsplit, hparse⟩

end QueryShell.Query
