import QueryShell.Proofs.Checked.Split
import QueryShell.Proofs.Query.Acceptance
import QueryShell.Proofs.Text.Boundary

/-!
# Query texts read by position

The reader of queries takes a text apart as it goes. A reader by position leaves
the text as it is and keeps offsets instead: it looks at single bytes to find
the name of the collection, goes back over semicolons from the end, and walks
along the tokens by index, where it counts parentheses to find the end of each
call and cuts the argument text out between two tokens.

Each of these operations has a condition, and each condition holds for a reason
of its own. The offsets that come from bytes are boundaries, for no byte of a
longer character passes for a letter (`readName_append`). Going back over
semicolons and blanks by turns never crosses the front (`stripEnd_append`). The
index stays within the tokens because the tokens left are always those of an end
of the text (`Stands`), which end with a token of their own kind. And where a
call closes, the count of parentheses is above zero (`matchingParen_closes`).

## Main statements

* `Checked.matchingParen_closes`, `Checked.nextCall_reaches`: one call.
* `Checked.readCalls_eq`: a chain of calls.
* `Checked.parse_eq`, `Checked.collection?_eq`: query texts are read without
  failing.
-/

namespace QueryShell.Checked

open Text
open Query (Fault Target Place isNameChar isTail isCallName)

/-! ## The collection -/

/-- Goes on behind the blanks at an offset. -/
def skipBlanks (text : List Char) (offset : Nat) : Option Nat := do
  let rest ← slice offset (byteLength text) text
  sub (offset + byteLength rest) (byteLength (rest.dropWhile isBlank))

/-- Reads the name of a collection, which begins at `start`, and where it
ends. -/
def readName (text : List Char) (start : Nat) : Reading (Fault × Nat) (List Char × Nat) := do
  let stop := start + (((utf8 text).drop start).takeWhile (byteIs isNameChar)).length
  if stop = start then throw (.noCollection, stop)
  else return (← slice start stop text, stop)

/-- Reads what stands behind the word at `start`, from an offset on: a point and
the name of the collection. -/
def readAfterDb (text : List Char) (start offset : Nat) :
    Reading (Fault × Nat) (List Char × Nat) := do
  let dot ← skipBlanks text offset
  if (utf8 text)[dot]?.any (byteIs (· == '.')) then readName text (← skipBlanks text (dot + 1))
  else throw (.noDatabase, start)

/-- Reads what stands in front of the calls, which begins at `start`: the name
of the collection, and where it ends. -/
def readTarget (text : List Char) (start : Nat) : Reading (Fault × Nat) (List Char × Nat) := do
  let body ← slice start (byteLength text) text
  if !(['d', 'b'].isPrefixOf body) ||
      (utf8 text)[start + 2]?.any (byteIs fun c => isNameChar c || c == '$') then
    throw (.noDatabase, start)
  else readAfterDb text start (start + 2)

/-! ## The calls -/

/-- The token at a position, which must be within the list. -/
def tokenAt (ts : List Token) (i : Nat) : Option Token :=
  ts[i]?

/-- Finds the parenthesis that closes a call, from the position `j` on. -/
def matchingParen (opener : Span) (index : Nat) :
    (depth j : Nat) → List Token → Reading QueryError Nat
  | _, _, [] => throw ((Fault.toError .unbalanced opener.start).inCall index)
  | depth, j, t :: ts =>
    if t.isUnclosed then throw ((Fault.toError (.unclosed t.kind) t.span.start).inCall index)
    else
      match t.kind with
      | .opener .paren => matchingParen opener index (depth + 1) (j + 1) ts
      | .closer .paren => do
        let depth ← sub depth 1
        if depth = 0 then return j else matchingParen opener index depth (j + 1) ts
      | .eof => throw ((Fault.toError .unbalanced opener.start).inCall index)
      | _ => matchingParen opener index depth (j + 1) ts

/-- The name of a call. -/
def callName? : TokenKind → Option String
  | .ident name => if isCallName name.toList then some name else none
  | .db => some "db"
  | _ => none

/-- Reads a call from its parenthesis on, which is opened at the position `i`,
and where to go on. -/
def callFrom (base : Nat) (text : List Char) (tokens : List Token) (index : Nat) (name : String)
    (start : Nat) (opener : Span) (i : Nat) : Reading QueryError (Call × Nat) := do
  let close ← matchingParen opener index 0 i (tokens.drop i)
  let closer ← tokenAt tokens close
  let inner ← slice (← sub opener.stop base) (← sub closer.span.start base) text
  let args ← (parseListAt opener.stop inner).adapt (·.inCall index)
  return (⟨name, args, ⟨start, closer.span.stop⟩⟩, close + 1)

/-- Reads the call at the position `i`, and where to go on; there is none at
the end of the text. -/
def nextCall (base : Nat) (text : List Char) (tokens : List Token) (index i : Nat) :
    Reading QueryError (Option (Call × Nat)) := do
  let dot ← tokenAt tokens i
  match dot.kind with
  | .eof => return none
  | .dot => do
    let name ← tokenAt tokens (i + 1)
    match callName? name.kind with
    | none => throw ((Fault.toError .noName name.span.start).inCall index)
    | some n => do
      let opener ← tokenAt tokens (i + 2)
      if opener.kind = .opener .paren then
        let call ← callFrom base text tokens index n name.span.start opener.span (i + 2)
        return some call
      else throw ((Fault.toError (.noParen n) opener.span.start).inCall index)
  | kind => throw (Fault.toError (.noDot kind) dot.span.start)

/-- Reads the calls from the position `i` on. -/
def readCalls (base : Nat) (text : List Char) (tokens : List Token) (index i : Nat) :
    Reading QueryError (List Call) := do
  match ← nextCall base text tokens index i with
  | none => return []
  | some (call, next) =>
    if i < next ∧ i < tokens.length then
      let calls ← readCalls base text tokens (index + 1) next
      return call :: calls
    else stuck
termination_by tokens.length - i

/-! ## The whole text -/

/-- Goes back over semicolons and blanks. -/
def stripEnd (text : List Char) (stop : Nat) : Option Nat := do
  let front ← slice 0 stop text
  if front.getLast? = some ';' then
    let shorter ← slice 0 (← sub stop 1) text
    let next := byteLength (dropEndWhile isBlank shorter)
    if next < stop then stripEnd text next else none
  else return stop
termination_by stop

/-- The collection that a text is about, which may go on in any way. -/
def collection? (text : String) : Option (Option String) := do
  let cs := text.toList
  let start ← sub (byteLength cs) (byteLength (cs.dropWhile isBlank))
  let r ← (readTarget cs start).run
  return r.toOption.map fun t => String.ofList t.1

/-- Reads a query; its errors do not carry the query text yet. -/
def read (text : List Char) : Reading QueryError Query := do
  let start ← sub (byteLength text) (byteLength (text.dropWhile isBlank))
  let stop ← stripEnd text (byteLength (dropEndWhile isBlank text))
  if stop ≤ start then throw (Fault.toError .empty 0)
  else
    let body ← slice 0 stop text
    let (collection, restStart) ←
      (readTarget body start).adapt fun (fault, offset) => fault.toError offset
    let rest ← slice restStart (byteLength body) body
    let calls ← readCalls restStart rest (Token.tokenizeAt restStart rest) 0 0
    if calls.isEmpty then throw (Fault.toError (.noCall (String.ofList collection)) stop)
    else return ⟨String.ofList collection, calls⟩

/-- Reads a query. -/
def parse (text : String) : Reading QueryError Query :=
  (read text.toList).adapt (·.withQuery text)

/-! ## Offsets from bytes -/

/-- Blanks at an offset that is a boundary are skipped to a boundary. The reader
takes the length of what is left from the length of the whole, and that is the
difference which must not fall below zero. -/
theorem skipBlanks_append (a b : List Char) :
    skipBlanks (a ++ b) (byteLength a) = some (byteLength (a ++ b.takeWhile isBlank)) := by
  have hlen : byteLength a + byteLength b =
      byteLength (a ++ b.takeWhile isBlank) + byteLength (b.dropWhile isBlank) := by
    rw [← byteLength_append, ← byteLength_append, List.append_assoc, List.takeWhile_append_dropWhile]
  rw [skipBlanks, slice_suffix]
  show sub (byteLength a + byteLength b) _ = _
  rw [hlen, sub_add_right]

/-- The characters of names are in ASCII, so that a byte tells whether it is one
of them. -/
theorem toNat_lt_of_isNameChar {c : Char} (h : isNameChar c = true) : c.toNat < 128 := by
  rw [isNameChar, Bool.or_eq_true, beq_iff_eq] at h
  rcases h with h | rfl
  · exact Lexeme.toNat_lt_of_isAlphanum h
  · decide

/-- A character that is compared with one of ASCII can be told by its byte. -/
theorem toNat_lt_of_eq {c d : Char} (hd : d.toNat < 128) (h : (c == d) = true) : c.toNat < 128 := by
  rwa [beq_iff_eq.mp h]

/-- **A name ends on a boundary**, though it is looked for byte by byte, and can
be cut out. All characters of a name are ASCII, and no byte of a longer
character looks like one of them. -/
theorem readName_append (a b : List Char) : readName (a ++ b) (byteLength a) =
    done (if (b.takeWhile isNameChar).isEmpty then .error (.noCollection, byteLength a)
      else .ok (b.takeWhile isNameChar, byteLength a + byteLength (b.takeWhile isNameChar))) := by
  have hslice : slice (byteLength a) (byteLength a + byteLength (b.takeWhile isNameChar)) (a ++ b) =
      some (b.takeWhile isNameChar) := by
    have h := slice_append a (b.takeWhile isNameChar) (b.dropWhile isNameChar)
    rwa [List.takeWhile_append_dropWhile] at h
  rw [readName, drop_utf8, length_takeWhile_utf8 _ fun c => toNat_lt_of_isNameChar]
  by_cases h : b.takeWhile isNameChar = []
  · rw [h, if_pos (by rfl)]
    rfl
  · rw [if_neg (by simp [byteLength_eq_zero_iff, h]), if_neg (by simpa using h), hslice]
    rfl

/-- What stands behind the word for the database is read the same by bytes, if
the word ends there. The blanks on both sides of the point are skipped to
boundaries. -/
theorem readAfterDb_append {start : Nat} {pre afterDb : List Char}
    (hpre : byteLength pre = start + 2)
    (hnext : ¬(afterDb.head?.any fun c => isNameChar c || c == '$') = true) :
    readAfterDb (pre ++ afterDb) start (byteLength pre) =
      done ((Target.read start ('d' :: 'b' :: afterDb)).map fun t => (t.collection, t.restStart)) := by
  have htext : pre ++ afterDb = pre ++ afterDb.takeWhile isBlank ++ afterDb.dropWhile isBlank := by
    rw [List.append_assoc, List.takeWhile_append_dropWhile]
  have hdot : ((utf8 (pre ++ afterDb))[byteLength (pre ++ afterDb.takeWhile isBlank)]?.any
      (byteIs (· == '.'))) = (afterDb.dropWhile isBlank).head?.any (· == '.') := by
    rw [htext, getElem?_utf8, any_head?_utf8 _ fun c => toNat_lt_of_eq (by decide)]
  rw [readAfterDb, skipBlanks_append, some_bind, hdot, Target.read, if_neg hnext]
  dsimp only
  cases h : afterDb.dropWhile isBlank with
  | nil => rfl
  | cons c afterDot =>
    by_cases hc : c = '.'
    · subst hc
      have hstart : byteLength (pre ++ afterDb.takeWhile isBlank) + 1 =
          byteLength (pre ++ afterDb.takeWhile isBlank ++ ['.']) := (byteLength_append _ ['.']).symm
      have hskip : skipBlanks (pre ++ afterDb) (byteLength (pre ++ afterDb.takeWhile isBlank ++ ['.'])) =
          some (byteLength (pre ++ afterDb.takeWhile isBlank ++ ['.'] ++ afterDot.takeWhile isBlank)) := by
        rw [← skipBlanks_append, htext, h]
        simp
      have hname : pre ++ afterDb = pre ++ afterDb.takeWhile isBlank ++ ['.'] ++
          afterDot.takeWhile isBlank ++ afterDot.dropWhile isBlank := by
        rw [List.append_assoc _ (afterDot.takeWhile isBlank), List.takeWhile_append_dropWhile, htext, h]
        simp
      have hlen : byteLength (pre ++ afterDb.takeWhile isBlank ++ ['.'] ++ afterDot.takeWhile isBlank) =
          start + 2 + byteLength (afterDb.takeWhile isBlank) + 1 +
            byteLength (afterDot.takeWhile isBlank) := by
        rw [byteLength_append, ← hstart, byteLength_append, hpre]
      rw [if_pos (by rfl), hstart, hskip, some_bind, hname, readName_append, hlen]
      show _ = done (Except.map _ (if _ then _ else _))
      split <;> rfl
    · rw [if_neg (by simpa using hc)]
      split
      · next heq =>
        cases heq
        exact absurd rfl hc
      · rfl

/-- **The front of a query is read the same by bytes.** Every byte that is
looked at is compared with ASCII characters only, so that it decides about the
character that it begins. -/
theorem readTarget_append (a body : List Char) : readTarget (a ++ body) (byteLength a) =
    done ((Target.read (byteLength a) body).map fun t => (t.collection, t.restStart)) := by
  have hword : ∀ c, (isNameChar c || c == '$') = true → c.toNat < 128 := fun c hc =>
    (Bool.or_eq_true_iff.mp hc).elim toNat_lt_of_isNameChar (toNat_lt_of_eq (by decide))
  rw [readTarget, slice_suffix, some_bind]
  by_cases hbody : ['d', 'b'].isPrefixOf body = true
  · obtain ⟨afterDb, rfl⟩ := List.isPrefixOf_iff_prefix.mp hbody
    have hpre : byteLength (a ++ ['d', 'b']) = byteLength a + 2 := byteLength_append a _
    have htext : a ++ (['d', 'b'] ++ afterDb) = a ++ ['d', 'b'] ++ afterDb := by simp
    rw [htext, ← hpre, getElem?_utf8, any_head?_utf8 _ hword]
    by_cases hnext : (afterDb.head?.any fun c => isNameChar c || c == '$') = true
    · have hcons : ['d', 'b'] ++ afterDb = 'd' :: 'b' :: afterDb := rfl
      rw [if_pos (by simp [hnext]), hcons, Target.read, if_pos hnext]
      rfl
    · rw [if_neg (by simp [hnext])]
      exact readAfterDb_append hpre hnext
  · rw [if_pos (by simp [hbody])]
    unfold Target.read
    split
    · exact absurd rfl hbody
    · rfl

/-! ## Tokens by index -/

section

variable {base index : Nat} {text : List Char} {t : Token} {ts tokens : List Token}

/-- The tokens are those of an end of the text, which begins at the offset
`base`. -/
def Stands (base : Nat) (text : List Char) (ts : List Token) : Prop :=
  ∃ pre cs r, text = pre ++ cs ∧ ts = Token.tokenizeFrom (base + byteLength pre) r cs

/-- There is always a token left: that of the end at least. -/
theorem Stands.exists_cons (h : Stands base text ts) : ∃ t us, ts = t :: us := by
  obtain ⟨pre, cs, r, -, rfl⟩ := h
  exact Query.exists_tokenizeFrom_eq_cons _ r cs

/-- The tokens that are left have the end of the text among them. -/
theorem Stands.exists_eof (h : Stands base text ts) : ∃ t ∈ ts, t.kind = .eof := by
  obtain ⟨pre, cs, r, -, rfl⟩ := h
  obtain ⟨us, hus, -⟩ := Token.tokenizeFrom_eq_append_eof (base + byteLength pre) r cs
  rw [hus]
  exact ⟨_, List.mem_append_right us List.mem_cons_self, rfl⟩

/-- **A token ends on a boundary**, from where the tokens behind it are those of
what is left. So the tokens that are left always stand for an end of the
text. -/
theorem Stands.exists_stop (h : Stands base text (t :: ts)) (ht : t.kind ≠ .eof) :
    ∃ pre cs r, text = pre ++ cs ∧ t.span.stop = base + byteLength pre ∧
      ts = Token.tokenizeFrom (base + byteLength pre) r cs := by
  obtain ⟨pre, cs, r, rfl, htokens⟩ := h
  obtain ⟨w, c, rest, -, -, rfl, -, hspan, hts⟩ := Token.eq_of_tokenizeFrom_eq_cons htokens.symm ht
  have hstop : t.span.stop = base + byteLength (pre ++ (w ++ (Lexeme.read r c rest).text)) := by
    rw [hspan, byteLength_append, byteLength_append]
    dsimp only
    omega
  refine ⟨_, _, _, ?_, hstop, hstop ▸ hts⟩
  rw [List.append_assoc, List.append_assoc, Lexeme.text_append_rest]

/-- The tokens behind a token are those of an end of the text again. -/
theorem Stands.tail (h : Stands base text (t :: ts)) (ht : t.kind ≠ .eof) : Stands base text ts := by
  obtain ⟨pre, cs, r, htext, -, hts⟩ := h.exists_stop ht
  exact ⟨pre, cs, r, htext, hts⟩

/-- Behind any number of tokens those that are left are the tokens of an end of
the text, as long as the end itself is not passed. -/
theorem Stands.drop (h : Stands base text ts) {n : Nat} (hn : ∀ t ∈ ts.take n, t.kind ≠ .eof) :
    Stands base text (ts.drop n) := by
  induction n generalizing ts with
  | zero => exact h
  | succ n ih =>
    obtain ⟨t, us, rfl⟩ := h.exists_cons
    rw [List.take_succ_cons, List.forall_mem_cons] at hn
    exact ih (h.tail hn.1) hn.2

/-- What stands between two tokens can be cut out. -/
theorem Stands.slice_between {c : Token} (h : Stands base text (t :: ts)) (ht : t.kind ≠ .eof)
    (hc : c ∈ ts) :
    sub t.span.stop base = some (t.span.stop - base) ∧
    sub c.span.start base = some (c.span.start - base) ∧
    slice (t.span.stop - base) (c.span.start - base) text =
      some (Text.slice (t.span.stop - base) (c.span.start - base) text) := by
  obtain ⟨pre, cs, r, rfl, hstop, rfl⟩ := h.exists_stop ht
  obtain ⟨a, b, rfl, hstart⟩ := Token.exists_start_of_mem hc
  have hstart' : c.span.start = base + (byteLength pre + byteLength a) := by
    rw [hstart, Nat.add_assoc]
  rw [hstop, hstart', Nat.add_sub_cancel_left, Nat.add_sub_cancel_left, sub_add_left, sub_add_left,
    slice_append, Text.slice, dropBytes_byteLength, Nat.add_sub_cancel_left, takeBytes_byteLength]
  exact ⟨rfl, rfl, rfl⟩

/-- **What is found inside the parentheses of a call**, and what is read from
there on: a fault, or the parenthesis that closes the call. -/
inductive Closes (base : Nat) (text : List Char) (index : Nat) (name : String) (start : Nat)
    (opener : Span) (j : Nat) (ts : List Token) :
    Reading QueryError Nat → Except QueryError (List Call) → Prop
  | fault (e : QueryError) : Closes base text index name start opener j ts (done (.error e)) (.error e)
  | closer {k : Nat} {t : Token} (ht : ts[k]? = some t) (hne : ∀ u ∈ ts.take (k + 1), u.kind ≠ .eof) :
    Closes base text index name start opener j ts (done (.ok (j + k))) (do
      let args ← (Literal.parseListAt opener.stop (Text.slice (opener.stop - base)
        (t.span.start - base) text)).mapError (·.inCall index)
      let calls ← Query.readCalls base text (index + 1) .outside (ts.drop (k + 1))
      .ok (⟨name, args, ⟨start, t.span.stop⟩⟩ :: calls))

variable {name : String} {start : Nat} {opener : Span} {j : Nat}

/-- One token more inside of the parentheses moves every position by one. -/
theorem Closes.cons {r : Reading QueryError Nat} {result : Except QueryError (List Call)}
    (h : Closes base text index name start opener (j + 1) ts r result) (ht : t.kind ≠ .eof) :
    Closes base text index name start opener j (t :: ts) r result := by
  cases h with
  | fault e => exact .fault e
  | @closer k u hu hne =>
    have hk : j + 1 + k = j + (k + 1) := by omega
    rw [hk]
    have hu' : (t :: ts)[k + 1]? = some u := hu
    exact .closer hu' (List.forall_mem_cons.mpr ⟨ht, hne⟩)

/-- A token that is no parenthesis leaves the count as it is. -/
theorem matchingParen_inner (ht : Query.IsInner t) (depth : Nat) :
    matchingParen opener index depth j (t :: ts) = matchingParen opener index depth (j + 1) ts := by
  obtain ⟨hclosed, hopener, hcloser, heof⟩ := ht
  rw [matchingParen, if_neg (by simp [hclosed])]
  split
  · contradiction
  · contradiction
  · contradiction
  · rfl

/-- **The end of a call is found the same by counting**, and where it closes the
count is above zero. The reader by parentheses goes one deeper at each that
opens, and the count is always one more than its depth, so that it reaches zero
just where the reader leaves the call. -/
theorem matchingParen_closes (heof : ∃ t ∈ ts, t.kind = .eof) (depth j : Nat) :
    Closes base text index name start opener j ts (matchingParen opener index (depth + 1) j ts)
      (Query.readCalls base text index (.inside name start opener depth) ts) := by
  induction ts generalizing depth j with
  | nil =>
    obtain ⟨t, ht, -⟩ := heof
    cases ht
  | cons t ts ih =>
    have heof' (hend : t.kind ≠ .eof) : ∃ u ∈ ts, u.kind = .eof := by
      obtain ⟨u, hu, hkind⟩ := heof
      have hne : u ≠ t := fun h => hend (h ▸ hkind)
      exact ⟨u, (List.mem_cons.mp hu).resolve_left hne, hkind⟩
    have hskip (hend : t.kind ≠ .eof) (depth' : Nat) := (ih (heof' hend) depth' (j + 1)).cons hend
    by_cases hinner : Query.IsInner t
    · rw [matchingParen_inner hinner, Query.readCalls_inner hinner]
      exact hskip hinner.2.2.2 depth
    rw [matchingParen, Query.readCalls.eq_def]
    dsimp only
    by_cases hopen : t.isUnclosed = true
    · rw [if_pos hopen, if_pos hopen]
      exact .fault _
    rw [if_neg hopen, if_neg hopen]
    by_cases hparen : t.kind = .opener .paren
    · simp only [hparen]
      exact hskip (by simp [hparen]) (depth + 1)
    by_cases hclose : t.kind = .closer .paren
    · have hend : t.kind ≠ .eof := by simp [hclose]
      simp only [hclose]
      rw [sub_add_right, some_bind]
      cases depth with
      | zero =>
        have ht : (t :: ts)[0]? = some t := rfl
        have hcloses : Closes base text index name start opener j (t :: ts) (done (.ok (j + 0))) _ :=
          .closer ht (by simpa using hend)
        dsimp only
        cases hargs : Literal.parseListAt opener.stop
            (Text.slice (opener.stop - base) (t.span.start - base) text) with
        | error e =>
          rw [hargs] at hcloses
          exact hcloses
        | ok args =>
          rw [hargs] at hcloses
          exact hcloses
      | succ depth => exact hskip hend depth
    by_cases hend : t.kind = .eof
    · simp only [hend]
      exact .fault _
    · exact absurd ⟨Bool.eq_false_iff.mpr hopen, hparen, hclose, hend⟩ hinner

/-- **What the call at a position is**, and what is read from there on: a fault,
no call, or a call, and then the calls behind it. -/
inductive Reaches (base : Nat) (text : List Char) (tokens : List Token) (index i : Nat) :
    Reading QueryError (Option (Call × Nat)) → Except QueryError (List Call) → Prop
  | fault (e : QueryError) : Reaches base text tokens index i (done (.error e)) (.error e)
  | finish : Reaches base text tokens index i (done (.ok none)) (.ok [])
  | call {next : Nat} (c : Call) (hlt : i < next) (h : Stands base text (tokens.drop next)) :
    Reaches base text tokens index i (done (.ok (some (c, next)))) (do
      let calls ← Query.readCalls base text (index + 1) .outside (tokens.drop next)
      .ok (c :: calls))

/-- The token at a position is the first of those that are left from there. -/
theorem tokenAt_of_drop {i : Nat} (h : tokens.drop i = t :: ts) : tokenAt tokens i = some t := by
  have hhead := congrArg List.head? h
  rwa [List.head?_drop] at hhead

/-- Behind the token at a position the tokens after it are left. -/
theorem drop_succ_of_drop {i : Nat} (h : tokens.drop i = t :: ts) : tokens.drop (i + 1) = ts := by
  rw [← List.drop_drop, h]
  rfl

/-- What stands between two calls has to be a point. -/
theorem readCalls_noDot (heof : t.kind ≠ .eof) (hdot : t.kind ≠ .dot) :
    Query.readCalls base text index .outside (t :: ts) =
      .error (Fault.toError (.noDot t.kind) t.span.start) := by
  rw [Query.readCalls.eq_def]
  dsimp only
  split
  · contradiction
  · contradiction
  · rfl

/-- Behind the point the name of a call has to come, by whichever reader. -/
theorem readCalls_afterDot (t : Token) (ts : List Token) :
    Query.readCalls base text index .afterDot (t :: ts) =
      match callName? t.kind with
      | none => .error ((Fault.toError .noName t.span.start).inCall index)
      | some n => Query.readCalls base text index (.afterName n t.span.start) ts := by
  rw [Query.readCalls.eq_def]
  dsimp only
  split
  · next n hk =>
    simp only [callName?, hk]
    by_cases hn : isCallName n.toList = true
    · rw [if_pos hn, if_pos hn]
    · rw [if_neg hn, if_neg hn]
  · next hk => simp only [callName?, hk]
  · next hident hdb =>
    have hnone : callName? t.kind = none := by
      unfold callName?
      split
      · exact absurd ‹_› (hident _)
      · exact absurd ‹_› hdb
      · rfl
    rw [hnone]

/-- A call is read the same from its parenthesis on. -/
theorem callFrom_reaches {i₀ i : Nat} {o : Token} (h : Stands base text (o :: ts))
    (hdrop : tokens.drop i = o :: ts) (ho : o.kind = .opener .paren) (hlt : i₀ < i) :
    Reaches base text tokens index i₀ (do
        let call ← callFrom base text tokens index name start o.span i
        return some call)
      (Query.readCalls base text index (.inside name start o.span 0) ts) := by
  have hne : o.kind ≠ .eof := by simp [ho]
  have hstep : matchingParen o.span index 0 i (o :: ts) =
      matchingParen o.span index (0 + 1) (i + 1) ts := by
    rw [matchingParen, Token.isUnclosed, ho]
    rfl
  have hclose : Closes base text index name start o.span (i + 1) ts _ _ :=
    matchingParen_closes (h.tail hne).exists_eof 0 (i + 1)
  rw [callFrom, hdrop, hstep]
  generalize matchingParen o.span index (0 + 1) (i + 1) ts = r at hclose ⊢
  generalize Query.readCalls base text index _ ts = result at hclose ⊢
  cases hclose with
  | fault e => exact .fault e
  | @closer k closer hcloser hinner =>
    have hts := drop_succ_of_drop hdrop
    have hget : tokenAt tokens (i + 1 + k) = some closer := by
      rw [tokenAt, ← List.getElem?_drop, hts, hcloser]
    have hrest : ts.drop (k + 1) = tokens.drop (i + 1 + k + 1) := by
      rw [← hts, List.drop_drop, Nat.add_assoc (i + 1)]
    obtain ⟨hstop, hstart, hslice⟩ := h.slice_between hne (List.mem_of_getElem? hcloser)
    rw [done_ok_bind, hget, some_bind, hstop, some_bind, hstart, some_bind, hslice, some_bind,
      parseListAt_eq, done_adapt, hrest]
    cases Literal.parseListAt o.span.stop _ with
    | error e => exact .fault _
    | ok args => exact .call _ (by omega) (hrest ▸ (h.tail hne).drop hinner)

/-- **One call is read the same by index**, up to the token behind it. The index
grows with every call, which is why the chain comes to an end. -/
theorem nextCall_reaches {i : Nat} (h : Stands base text (tokens.drop i)) :
    Reaches base text tokens index i (nextCall base text tokens index i)
      (Query.readCalls base text index .outside (tokens.drop i)) := by
  obtain ⟨dot, ts₁, hdot⟩ := h.exists_cons
  rw [hdot] at h ⊢
  rw [nextCall, tokenAt_of_drop hdot, some_bind]
  by_cases heof : dot.kind = .eof
  · rw [Query.readCalls.eq_def]
    simp only [heof]
    exact .finish
  by_cases hk : dot.kind = .dot
  · have h₁ := h.tail heof
    obtain ⟨name, ts₂, rfl⟩ := h₁.exists_cons
    have hname := drop_succ_of_drop hdot
    rw [Query.readCalls.eq_def]
    simp only [hk]
    rw [tokenAt_of_drop hname, some_bind, readCalls_afterDot]
    cases hn : callName? name.kind with
    | none => exact .fault _
    | some n =>
      have h₂ := h₁.tail (by rintro heq; rw [heq] at hn; cases hn)
      obtain ⟨opener, ts₃, rfl⟩ := h₂.exists_cons
      have hopener := drop_succ_of_drop hname
      dsimp only
      rw [tokenAt_of_drop hopener, some_bind, Query.readCalls.eq_def]
      dsimp only
      by_cases hparen : opener.kind = .opener .paren
      · rw [if_pos hparen, if_pos hparen]
        exact callFrom_reaches h₂ hopener hparen (by omega)
      · rw [if_neg hparen, if_neg hparen]
        exact .fault _
  · rw [readCalls_noDot heof hk]
    split
    · contradiction
    · contradiction
    · exact .fault _

/-- **A chain of calls is read the same by index**, as long as the tokens left
are those of an end of the text. Then they end with the token for the end, and
the index never runs behind them. -/
theorem readCalls_eq (index : Nat) {i : Nat} (h : Stands base text (tokens.drop i)) :
    readCalls base text tokens index i =
      done (Query.readCalls base text index .outside (tokens.drop i)) := by
  have hlt : i < tokens.length := by
    obtain ⟨t, us, ht⟩ := h.exists_cons
    exact (List.getElem?_eq_some_iff.mp (tokenAt_of_drop ht)).1
  have hnext : Reaches base text tokens index i _ _ := nextCall_reaches h
  rw [readCalls]
  generalize nextCall base text tokens index i = r at hnext ⊢
  generalize Query.readCalls base text index .outside (tokens.drop i) = result at hnext ⊢
  cases hnext with
  | fault e => rfl
  | finish => rfl
  | @call next c hi hstands =>
    rw [done_ok_bind]
    dsimp only
    rw [if_pos ⟨hi, hlt⟩, readCalls_eq (index + 1) hstands]
    exact done_bind fun calls => rfl
termination_by tokens.length - i

end

/-! ## The ends of the text -/

/-- Blanks are among what may stand behind the last call. -/
theorem isTail_of_isBlank {c : Char} (h : isBlank c = true) : isTail c = true := by
  rw [isTail, h, Bool.true_or]

/-- Going back over semicolons and blanks by turns strips all of both. -/
theorem stripEnd_append (a t : List Char) :
    stripEnd (dropEndWhile isBlank a ++ t) (byteLength (dropEndWhile isBlank a)) =
      some (byteLength (dropEndWhile isTail a)) := by
  have hstrip : dropEndWhile isTail a = dropEndWhile isTail (dropEndWhile isBlank a) := by
    obtain ⟨b, hab, hb⟩ := dropEndWhile_append_rest isBlank a
    conv_lhs => rw [hab]
    exact dropEndWhile_append_of_all (fun c hc => isTail_of_isBlank (hb c hc)) _
  have hlast (c : Char) (hc : (dropEndWhile isBlank a).getLast? = some c) : isBlank c = false :=
    getLast?_dropEndWhile hc
  rw [hstrip, stripEnd, slice_prefix]
  generalize hfront : dropEndWhile isBlank a = front at hlast ⊢
  show (if front.getLast? = some ';' then _ else _) = _
  split
  · next hsemicolon =>
    obtain ⟨shorter, rfl⟩ := List.getLast?_eq_some_iff.mp hsemicolon
    obtain ⟨b, hb, -⟩ := dropEndWhile_append_rest isBlank shorter
    have hlen : byteLength (shorter ++ [';']) = byteLength shorter + 1 := byteLength_append _ _
    have htext : shorter ++ [';'] ++ t = dropEndWhile isBlank shorter ++ (b ++ [';'] ++ t) := by
      conv_lhs => rw [hb]
      simp
    have hlt : byteLength (dropEndWhile isBlank shorter) < byteLength shorter + 1 := by
      have hle := congrArg byteLength hb
      rw [byteLength_append] at hle
      omega
    have hslice : slice 0 (byteLength shorter) (shorter ++ [';'] ++ t) = some shorter := by
      rw [List.append_assoc, slice_prefix]
    have hless : byteLength (dropEndWhile isBlank shorter) < byteLength (dropEndWhile isBlank a) := by
      rwa [hfront, hlen]
    have hnext := stripEnd_append shorter (b ++ [';'] ++ t)
    rw [← htext] at hnext
    rw [hlen, sub_add_right]
    show (slice 0 (byteLength shorter) _ >>= _) = _
    rw [hslice]
    show (if _ then _ else _) = _
    rw [if_pos hlt, hnext, dropEndWhile_append_of_all (List.forall_mem_singleton.mpr (by decide))]
  · next hsemicolon =>
    rw [dropEndWhile_of_headNot]
    · rfl
    · intro c hc
      rw [List.head?_reverse] at hc
      have hne : c ≠ ';' := fun h => hsemicolon (h ▸ hc)
      simp [isTail, hlast c hc, hne]
termination_by byteLength (dropEndWhile isBlank a)

/-- A text that does not end with a blank or a semicolon is more than blanks. -/
theorem takeWhile_of_stripped {s : List Char} (hs : HeadNot isTail s.reverse) (hne : s ≠ [])
    (t : List Char) : (s ++ t).takeWhile isBlank = s.takeWhile isBlank ∧
      byteLength (s.takeWhile isBlank) < byteLength s := by
  have hsplit : s = s.takeWhile isBlank ++ s.dropWhile isBlank :=
    List.takeWhile_append_dropWhile.symm
  have hrest := headNot_dropWhile isBlank s
  cases h : s.dropWhile isBlank with
  | nil =>
    obtain ⟨front, c, hc⟩ := (List.eq_nil_or_concat s).resolve_left hne
    subst hc
    have hblank : isBlank c = true := List.dropWhile_eq_nil_iff.mp h c (by simp)
    have htail : isTail c = false := hs c (by simp)
    rw [isTail_of_isBlank hblank] at htail
    cases htail
  | cons d ds =>
    rw [h] at hsplit hrest
    constructor
    · conv_lhs => rw [hsplit]
      rw [List.append_assoc, List.takeWhile_append_of_pos (List.all_eq_true.mp List.all_takeWhile),
        List.cons_append, takeWhile_of_headNot (headNot_cons.mpr (headNot_cons.mp hrest)),
        List.append_nil]
    · have hlen := congrArg byteLength hsplit
      rw [byteLength_append, byteLength_cons] at hlen
      have hpos := d.utf8Size_pos
      omega

/-- Where the first character stands that is no blank. -/
theorem sub_byteLength_dropWhile (text : List Char) :
    sub (byteLength text) (byteLength (text.dropWhile isBlank)) =
      some (byteLength (text.takeWhile isBlank)) := by
  have hlen := byteLength_append (text.takeWhile isBlank) (text.dropWhile isBlank)
  rw [List.takeWhile_append_dropWhile] at hlen
  rw [hlen, sub_add_right]

/-! ## Query texts -/

/-- **A query is read without failing from its characters.** What is cut off at
its end, the blanks in front, the collection and the text of the calls all begin
and end on boundaries, and the last of them gives the tokens that the calls are
read from. -/
theorem read_eq (text : List Char) : read text = done (Query.read text) := by
  obtain ⟨blanks, hblanks, -⟩ := dropEndWhile_append_rest isBlank text
  obtain ⟨tail, htail, -⟩ := dropEndWhile_append_rest isTail text
  have hstop := stripEnd_append text blanks
  rw [← hblanks] at hstop
  have hlast : HeadNot isTail (dropEndWhile isTail text).reverse := by
    rw [dropEndWhile, List.reverse_reverse]
    exact headNot_dropWhile _ _
  rw [read, sub_byteLength_dropWhile, some_bind, hstop, some_bind, Query.read]
  dsimp only
  generalize dropEndWhile isTail text = stripped at htail hlast ⊢
  subst htail
  by_cases hempty : stripped = []
  · subst hempty
    rw [if_pos (show byteLength [] ≤ _ from Nat.zero_le _), if_pos (by rfl)]
    rfl
  obtain ⟨htake, hlt⟩ := takeWhile_of_stripped hlast hempty tail
  have htarget := readTarget_append (stripped.takeWhile isBlank) (stripped.dropWhile isBlank)
  rw [List.takeWhile_append_dropWhile] at htarget
  rw [htake, if_neg (by omega), if_neg (by simpa using hempty), slice_prefix, some_bind, htarget,
    done_adapt]
  cases hread : Target.read (byteLength (stripped.takeWhile isBlank)) (stripped.dropWhile isBlank) with
  | error e => rfl
  | ok t =>
    obtain ⟨w, w', -, -, -, -, hparts, hstart⟩ := Query.exists_parts_of_target_read hread
    have hrest : slice t.restStart (byteLength stripped) stripped = some t.rest := by
      have hsplit : stripped = stripped.takeWhile isBlank ++
          'd' :: 'b' :: (w ++ '.' :: (w' ++ t.collection)) ++ t.rest := by
        conv_lhs => rw [← stripped.takeWhile_append_dropWhile (p := isBlank), hparts]
        simp
      rw [hstart, ← byteLength_append]
      generalize stripped.takeWhile isBlank ++ 'd' :: 'b' :: (w ++ '.' :: (w' ++ t.collection)) =
        front at hsplit ⊢
      rw [hsplit, slice_suffix]
    have hstands : Stands t.restStart t.rest ((Token.tokenizeAt t.restStart t.rest).drop 0) :=
      ⟨[], t.rest, true, rfl, rfl⟩
    rw [Except.map, Except.mapError, done_ok_bind]
    dsimp only
    rw [hrest, some_bind, readCalls_eq 0 hstands]
    refine done_bind fun calls => ?_
    split <;> rfl

/-- **Query texts are read without failing**, and as they are read by taking
them apart. No condition is left to the callers: the text may be any at all. -/
theorem parse_eq (text : String) : parse text = done (Query.parse text) := by
  rw [parse, read_eq, done_adapt, Query.parse]
  cases Query.read text.toList <;> rfl

/-- What is read as the name of the collection does not depend on where the text
begins. -/
theorem target_read_collection (start start' : Nat) (cs : List Char) :
    (Target.read start cs).toOption.map Target.collection =
      (Target.read start' cs).toOption.map Target.collection := by
  unfold Target.read
  split
  · split
    · rfl
    · dsimp only
      split
      · split <;> rfl
      · rfl
  · rfl

/-- **The collection of any text is found without failing**, and is the one that
is found by taking the text apart. The text need not be a query; the one that
has no collection gives none. -/
theorem collection?_eq (text : String) : collection? text = some (Query.collection? text) := by
  have htarget := readTarget_append (text.toList.takeWhile isBlank) (text.toList.dropWhile isBlank)
  rw [List.takeWhile_append_dropWhile] at htarget
  rw [collection?, Query.collection?, sub_byteLength_dropWhile]
  show ((readTarget text.toList _).run >>= _) = _
  rw [htarget]
  have hcollection := target_read_collection (byteLength (text.toList.takeWhile isBlank)) 0
    (text.toList.dropWhile isBlank)
  have hchecked : ((done ((Target.read (byteLength (text.toList.takeWhile isBlank))
      (text.toList.dropWhile isBlank)).map fun t => (t.collection, t.restStart))).run >>= fun r =>
        some (r.toOption.map fun t => String.ofList t.1)) =
      some (((Target.read (byteLength (text.toList.takeWhile isBlank))
        (text.toList.dropWhile isBlank)).toOption.map Target.collection).map String.ofList) := by
    cases Target.read (byteLength (text.toList.takeWhile isBlank)) _ <;> rfl
  refine hchecked.trans ?_
  rw [hcollection]
  cases Target.read 0 (text.toList.dropWhile isBlank) <;> rfl

end QueryShell.Checked
