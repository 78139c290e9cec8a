import Mathlib.Data.List.Induction
import QueryShell.Proofs.Completion.Grammar

/-!
# The walk and the grammar

The machine walks along the tokens once and keeps a stack of frames and the last
token. `Stands` says, for a position and a stack, which tokens the grammar
derives there; one step keeps it (`Stands.step`), so it holds after any walk
(`stands_walk`). The way back is a computation: the walk along a derived list
ends where the derivation says (`walk_chain`, `walk_opened`).

Together they make `Machine.context?` a decision procedure for `Fits`
(`context?_walk_eq_some_iff`).
-/

namespace QueryShell.Completion

variable {u v t ks : List TokenKind} {bs : List Bracket} {fs : List Frame} {n : Nat}

namespace Machine

/-- The machine after a list of tokens. -/
def walk (m : Machine) (ks : List TokenKind) : Machine :=
  ks.foldl feed m

@[simp] theorem walk_nil (m : Machine) : m.walk [] = m := rfl

@[simp] theorem walk_cons (m : Machine) (k : TokenKind) (ks : List TokenKind) :
    m.walk (k :: ks) = (m.feed k).walk ks := rfl

theorem walk_append (m : Machine) (ks ls : List TokenKind) :
    m.walk (ks ++ ls) = (m.walk ks).walk ls :=
  List.foldl_append

/-- **The machine remembers the last token**, whatever else it makes of it. A
separator is looked for in this token, so that the grammar can speak of the end
of a list in its place. -/
theorem last_walk (m : Machine) (ks : List TokenKind) :
    (m.walk ks).last = ks.getLast?.or m.last := by
  induction ks using List.reverseRecOn with
  | nil => rfl
  | append_singleton ks k _ =>
    rw [walk_append, List.getLast?_concat]
    rfl

/-- What a machine offers once `typed` has been typed. -/
def Offers (m : Machine) (typed : List Char) : Slot → Prop
  | .collection => m.position = .afterDbDot
  | .method => m.position = .afterCollectionDot
  | .modifier => m.position = .afterCallDot
  | .stage => m.position = .inside ∧ m.frames.head? = some (.array true) ∧ m.afterSeparator .square
  | .operator => m.position = .inside ∧
      ¬ (m.frames.head? = some (.array true) ∧ m.afterSeparator .square) ∧
      (typed.head? = some '$' ∨ m.frames.head? = some .object ∧ m.afterSeparator .brace)
  | .field _ => False

/-- **The context of the machine is the slot that it offers.** What it offers is
told here without the order in which the machine looks for it. -/
theorem context?_eq_some_iff (m : Machine) (typed : List Char) (c : Context) :
    m.context? typed = some c ↔ typed = c.typed ∧ m.Offers typed c.slot := by
  obtain ⟨slot, typed'⟩ := c
  unfold context?
  cases hposition : m.position with
  | inside =>
    by_cases hstage : m.frames.head? = some (.array true) ∧ m.afterSeparator .square
    · cases slot <;> simp [Offers, hposition, hstage]
    · by_cases hdollar : typed.head? = some '$'
      · cases slot <;> simp [Offers, hposition, hstage, hdollar]
      · by_cases hobject : m.frames.head? = some .object ∧ m.afterSeparator .brace
        · cases slot <;> simp [Offers, hposition, hdollar, hobject]
        · cases slot <;> simp [Offers, hposition, hstage, hdollar, hobject]
  | _ => cases slot <;> simp [Offers, hposition]

end Machine

/-! ### Frames -/

/-- `Opened aggregate fs u`: the frames `fs` stand for the brackets that the
tokens `u` leave open in the arguments of a call, the parenthesis of the call
among them. -/
inductive Opened (aggregate : Bool) : List Frame → List TokenKind → Prop
  | nested {u : List TokenKind} (hu : Nested u) : Opened aggregate [.paren aggregate] u
  | opener {fs : List Frame} {u v : List TokenKind} (b : Bracket) (hu : Opened aggregate fs u)
      (hv : Nested v) :
      Opened aggregate
        (Machine.frameOf ⟨.inside, fs, u.getLast?.or (some (.opener .paren))⟩ b :: fs)
        (u ++ .opener b :: v)

namespace Opened

variable {aggregate : Bool}

/-- Nested tokens behind the arguments so far open no frame. -/
theorem append (hu : Opened aggregate fs u) (hv : Nested v) : Opened aggregate fs (u ++ v) := by
  cases hu with
  | nested hu => exact .nested (hu.append hv)
  | opener b hu hw =>
    rw [List.append_assoc, List.cons_append]
    exact .opener b hu (hw.append hv)

/-- Inside of a call there is at least the frame of the call. -/
theorem ne_nil (hu : Opened aggregate fs u) : fs ≠ [] := by
  cases hu <;> exact List.cons_ne_nil _ _

/-- With no frame besides the one of the call, all brackets of the arguments are
closed. -/
theorem nested_of_singleton {f : Frame} (hu : Opened aggregate [f] u) :
    f = .paren aggregate ∧ Nested u := by
  cases hu with
  | nested hu => exact ⟨rfl, hu⟩
  | opener _ hu _ => exact absurd rfl hu.ne_nil

/-- The frame of a bracket is known by the bracket. -/
theorem bracket_frameOf (m : Machine) (b : Bracket) : (m.frameOf b).bracket = b := by
  cases b <;> rfl

/-- The brackets of the frames are those that the grammar has open, and the
parenthesis of the call. -/
theorem opens (hu : Opened aggregate fs u) :
    ∃ bs, Opens bs u ∧ fs.map Frame.bracket = bs ++ [.paren] := by
  induction hu with
  | nested hu => exact ⟨[], .nested hu, rfl⟩
  | opener b _ hv ih =>
    obtain ⟨bs, hu, hbs⟩ := ih
    refine ⟨b :: bs, .opener b hu hv, ?_⟩
    rw [List.map_cons, hbs, bracket_frameOf, List.cons_append]

/-- The bracket of the innermost frame closes what was read since it opened. -/
theorem close {f : Frame} (hu : Opened aggregate (f :: fs) u) (hfs : fs ≠ []) :
    Opened aggregate fs (u ++ [.closer f.bracket]) := by
  cases hu with
  | nested _ => exact absurd rfl hfs
  | opener b hu hv =>
    rw [List.append_assoc, List.cons_append, bracket_frameOf]
    exact hu.append (.group b .nil hv)

/-- The frame of a pipeline is made by the first token of the arguments of an
aggregation. -/
theorem of_head_pipeline (hu : Opened aggregate (.array true :: fs) u) :
    aggregate = true ∧ ∃ v, Nested v ∧ u = .opener .square :: v := by
  generalize hall : Frame.array true :: fs = all at hu
  cases hu with
  | nested _ => cases hall
  | @opener fs' u' v b hu hv =>
    obtain ⟨hframe, rfl⟩ := List.cons.inj hall
    cases b with
    | paren => cases hframe
    | brace => cases hframe
    | square =>
      have hpipeline := (Frame.array.inj hframe).symm
      rw [Bool.and_eq_true, decide_eq_true_iff, decide_eq_true_iff] at hpipeline
      obtain ⟨rfl, hlast⟩ := hpipeline
      obtain ⟨haggregate, hu⟩ := hu.nested_of_singleton
      refine ⟨(Frame.paren.inj haggregate).symm, v, hv, ?_⟩
      -- nested tokens do not end in a bracket that opens, so there are none
      have hnil : u'.getLast? = none := by
        cases h : u'.getLast? with
        | none => rfl
        | some k =>
          rw [h] at hlast
          exact absurd (h.trans hlast) (hu.getLast?_ne_opener .paren)
      rw [List.getLast?_eq_none_iff.mp hnil, List.nil_append]

end Opened

/-! ### What the machine has read -/

/-- The tokens that the grammar has at a position of the machine. -/
inductive Stands : Position → List Frame → List TokenKind → Prop
  | start : Stands .start [] []
  | afterDb : Stands .afterDb [] [.db]
  | afterDbDot : Stands .afterDbDot [] [.db, .dot]
  | afterCollection {t : List TokenKind} (ht : Chain 0 t) : Stands .afterCollection [] t
  | afterCollectionDot {t : List TokenKind} (ht : Chain 0 t) :
      Stands .afterCollectionDot [] (t ++ [.dot])
  | afterName {n : Nat} {t : List TokenKind} (ht : Chain n t) (name : String) :
      Stands (.afterName (n == 0 && name == "aggregate")) [] (t ++ [.dot, .ident name])
  | inside {n : Nat} {t u : List TokenKind} {fs : List Frame} (ht : Chain n t) (name : String)
      (hu : Opened (n == 0 && name == "aggregate") fs u) :
      Stands .inside fs (t ++ .dot :: .ident name :: .opener .paren :: u)
  | afterCall {n : Nat} {t : List TokenKind} (ht : Chain (n + 1) t) : Stands .afterCall [] t
  | afterCallDot {n : Nat} {t : List TokenKind} (ht : Chain (n + 1) t) :
      Stands .afterCallDot [] (t ++ [.dot])
  | invalid (fs : List Frame) (ks : List TokenKind) : Stands .invalid fs ks

/-- A collection that ends in a numeral is the numeral, and a word may follow
it. -/
theorem Chain.append_word {text : String} (ht : Chain 0 t) (hlast : t.getLast? = some (.number text))
    (name : String) : Chain 0 (t ++ [.ident name]) := by
  generalize hn : 0 = n at ht
  cases ht with
  | call => cases hn
  | collection hc =>
    cases hc with
    | numeral => exact .collection (.numeralWord _ name)
    | _ => simp at hlast

/-- The last token of a call so far is that of its arguments or, without any,
the parenthesis. -/
theorem getLast?_arguments (t : List TokenKind) (name : String) (u : List TokenKind) :
    (t ++ .dot :: .ident name :: .opener .paren :: u).getLast? =
      u.getLast?.or (some (.opener .paren)) := by
  have happend : t ++ .dot :: .ident name :: .opener .paren :: u =
      (t ++ [.dot, .ident name, .opener .paren]) ++ u := by simp
  rw [happend, List.getLast?_append]
  simp

/-- One step inside the arguments of a call. -/
theorem Stands.stepInside {m : Machine} {name : String} {k : TokenKind} (ht : Chain n t)
    (hu : Opened (n == 0 && name == "aggregate") m.frames u)
    (hlast : m.last = u.getLast?.or (some (.opener .paren))) :
    Stands (m.stepInside k).1 (m.stepInside k).2
      (t ++ .dot :: .ident name :: .opener .paren :: (u ++ [k])) := by
  fun_cases Machine.stepInside m k with
  | case1 b =>
    refine .inside ht name ?_
    have hframe := Opened.opener b hu .nil
    rw [← hlast] at hframe
    exact hframe
  | case2 b hframes => exact absurd hframes hu.ne_nil
  | case3 f rest hframes =>
    rw [hframes] at hu
    cases rest with
    | nil =>
      obtain ⟨rfl, hnested⟩ := hu.nested_of_singleton
      exact .afterCall (.call ht name hnested)
    | cons f' rest => exact .inside ht name (hu.close (List.cons_ne_nil _ _))
  | case4 b f rest hframes hb => exact .invalid _ _
  | case5 k ho hc =>
    have hopener : k.isOpener = false := by
      cases k with
      | opener b => exact (ho b rfl).elim
      | _ => rfl
    have hcloser : k.isCloser = false := by
      cases k with
      | closer b => exact (hc b rfl).elim
      | _ => rfl
    exact .inside ht name (hu.append (.plain .nil hopener hcloser))

/-- **One step keeps to the grammar.** The cases are those of the position
before the step and of the token; where no derivation goes on, the machine is in
its invalid position, which stands for any tokens. -/
theorem Stands.step {m : Machine} {k : TokenKind} (h : Stands m.position m.frames ks)
    (hlast : m.last = ks.getLast?) (hk : k ≠ .eof) :
    Stands (m.step k).1 (m.step k).2 (ks ++ [k]) := by
  obtain ⟨position, frames, last⟩ := m
  cases h with
  | start =>
    cases k with
    | db => exact .afterDb
    | eof => exact absurd rfl hk
    | _ => exact .invalid _ _
  | afterDb =>
    cases k with
    | dot => exact .afterDbDot
    | eof => exact absurd rfl hk
    | _ => exact .invalid _ _
  | afterDbDot =>
    cases k with
    | ident name => exact .afterCollection (.collection (.word name))
    | db => exact .afterCollection (.collection .db)
    | number text => exact .afterCollection (.collection (.numeral text))
    | eof => exact absurd rfl hk
    | _ => exact .invalid _ _
  | afterCollection ht =>
    cases k with
    | ident name =>
      -- the word belongs to the collection if a numeral stands before it
      cases last with
      | none => exact .invalid _ _
      | some l =>
        cases l with
        | number text => exact .afterCollection (ht.append_word hlast.symm name)
        | _ => exact .invalid _ _
    | dot => exact .afterCollectionDot ht
    | eof => exact absurd rfl hk
    | _ => exact .invalid _ _
  | afterCollectionDot ht =>
    cases k with
    | ident name =>
      rw [List.append_assoc]
      exact .afterName ht name
    | eof => exact absurd rfl hk
    | _ => exact .invalid _ _
  | afterName ht name =>
    cases k with
    | opener b =>
      cases b with
      | paren =>
        rw [List.append_assoc]
        exact .inside ht name (.nested .nil)
      | _ => exact .invalid _ _
    | eof => exact absurd rfl hk
    | _ => exact .invalid _ _
  | inside ht name hu =>
    have hstep : Machine.step ⟨.inside, frames, last⟩ k =
        Machine.stepInside ⟨.inside, frames, last⟩ k := by
      cases k with
      | eof => exact absurd rfl hk
      | _ => rfl
    rw [hstep, List.append_assoc]
    exact .stepInside ht hu (hlast.trans (getLast?_arguments _ _ _))
  | afterCall ht =>
    cases k with
    | dot => exact .afterCallDot ht
    | eof => exact absurd rfl hk
    | _ => exact .invalid _ _
  | afterCallDot ht =>
    cases k with
    | ident name =>
      rw [List.append_assoc]
      exact .afterName ht name
    | eof => exact absurd rfl hk
    | _ => exact .invalid _ _
  | invalid => cases k <;> exact .invalid _ _

/-- **A walk keeps to the grammar**, by induction on the tokens from their end.
The end of the text, which the machine looks past, is left out. -/
theorem stands_walk (ks : List TokenKind) (hks : .eof ∉ ks) :
    Stands (Machine.walk {} ks).position (Machine.walk {} ks).frames ks := by
  induction ks using List.reverseRecOn with
  | nil => exact .start
  | append_singleton ks k ih =>
    rw [List.mem_append, List.mem_singleton, not_or] at hks
    rw [Machine.walk_append]
    refine (ih hks.1).step ?_ (Ne.symm hks.2)
    rw [Machine.last_walk]
    exact Option.or_none

/-! ### Where the machine stands behind derived tokens -/

/-- A closing bracket that fits leaves the frame that was open before. -/
theorem Machine.feed_closer (g f : Frame) (fs : List Frame) (last : Option TokenKind) :
    Machine.feed ⟨.inside, g :: f :: fs, last⟩ (.closer g.bracket) =
      ⟨.inside, f :: fs, some (.closer g.bracket)⟩ := by
  simp [Machine.feed, Machine.step, Machine.stepInside]

/-- Nested tokens leave the machine where it is inside the arguments. -/
theorem walk_nested (hu : Nested u) (f : Frame) (fs : List Frame) (last : Option TokenKind) :
    Machine.walk ⟨.inside, f :: fs, last⟩ u = ⟨.inside, f :: fs, u.getLast?.or last⟩ := by
  induction hu generalizing f fs last with
  | nil => rfl
  | @plain u k _ ho hc ih =>
    rw [Machine.walk_append, ih, List.getLast?_concat]
    cases k with
    | opener => cases ho
    | closer => cases hc
    | _ => rfl
  | @group u v b _ _ ihu ihv =>
    -- the frame that the opening bracket makes is the one that the closing bracket takes away
    obtain ⟨g, hg, rfl⟩ : ∃ g, Machine.frameOf ⟨.inside, f :: fs, u.getLast?.or last⟩ b = g ∧
        g.bracket = b := ⟨_, rfl, Opened.bracket_frameOf _ _⟩
    rw [Machine.walk_append, ihu, Machine.walk_cons]
    show Machine.walk ⟨.inside, Machine.frameOf _ g.bracket :: f :: fs, _⟩ _ = _
    rw [hg, Machine.walk_append, ihv, Machine.walk_cons, Machine.feed_closer, Machine.walk_nil,
      ← List.cons_append, ← List.append_assoc, List.getLast?_concat]
    rfl

/-- The frames behind a part of the arguments are those that stand for its open
brackets. -/
theorem walk_opened {aggregate : Bool} (hu : Opened aggregate fs u) :
    Machine.walk ⟨.inside, [.paren aggregate], some (.opener .paren)⟩ u =
      ⟨.inside, fs, u.getLast?.or (some (.opener .paren))⟩ := by
  induction hu with
  | nested hu => exact walk_nested hu _ _ _
  | @opener fs u v b _ hv ih =>
    rw [Machine.walk_append, ih, Machine.walk_cons]
    show Machine.walk ⟨.inside, _ :: fs, some (.opener b)⟩ v = _
    rw [walk_nested hv]
    simp [List.getLast?_append, List.getLast?_cons]

/-- Any part of arguments has frames that stand for its open brackets. -/
theorem Opens.exists_opened (hu : Opens bs u) (aggregate : Bool) :
    ∃ fs, Opened aggregate fs u ∧ fs.map Frame.bracket = bs ++ [.paren] := by
  induction hu with
  | nested hu => exact ⟨_, .nested hu, rfl⟩
  | opener b _ hv ih =>
    obtain ⟨fs, hu, hfs⟩ := ih
    refine ⟨_, .opener b hu hv, ?_⟩
    rw [List.map_cons, hfs, Opened.bracket_frameOf, List.cons_append]

/-- The position behind a collection with `n` calls on it. -/
def Position.afterCalls : Nat → Position
  | 0 => .afterCollection
  | _ + 1 => .afterCall

/-- The name of a call and its parenthesis, behind a collection or another
call. -/
theorem walk_name (n : Nat) (last : Option TokenKind) (name : String) (ks : List TokenKind) :
    Machine.walk ⟨.afterCalls n, [], last⟩
        (.dot :: .ident name :: .opener .paren :: ks) =
      Machine.walk ⟨.inside, [.paren (n == 0 && name == "aggregate")], some (.opener .paren)⟩ ks := by
  cases n <;> rfl

/-- A call leads from one end of a chain to the next. -/
theorem walk_call (hv : Nested v) (n : Nat) (last : Option TokenKind) (name : String)
    (ks : List TokenKind) :
    Machine.walk ⟨.afterCalls n, [], last⟩
        (.dot :: .ident name :: .opener .paren :: (v ++ .closer .paren :: ks)) =
      Machine.walk ⟨.afterCalls (n + 1), [], some (.closer .paren)⟩ ks := by
  rw [walk_name, Machine.walk_append, walk_nested hv]
  rfl

/-- Behind a chain the machine is outside all brackets. -/
theorem walk_chain (ht : Chain n t) :
    Machine.walk {} t = ⟨.afterCalls n, [], t.getLast?⟩ := by
  induction ht with
  | collection hc => cases hc <;> rfl
  | @call n t v _ name hv ih =>
    rw [Machine.walk_append, ih, walk_call hv, ← List.cons_append, ← List.cons_append,
      ← List.cons_append, ← List.append_assoc, List.getLast?_concat]
    rfl

/-- What cannot be part of a query cannot become part of one. -/
theorem walk_of_invalid {m : Machine} (h : m.position = .invalid) (ks : List TokenKind) :
    (m.walk ks).position = .invalid := by
  induction ks generalizing m with
  | nil => exact h
  | cons k ks ih =>
    refine ih ?_
    unfold Machine.feed Machine.step
    rw [h]

/-- **Where the machine stands inside of the arguments of a call**, by the
brackets that are open. Of a bracket in a pipeline the machine also knows that
it is one, which it does for the first call only. -/
theorem walk_arguments (ht : Chain n t) (name : String)
    (hu : Opened (n == 0 && name == "aggregate") fs u) :
    Machine.walk {} (t ++ .dot :: .ident name :: .opener .paren :: u) =
      ⟨.inside, fs, u.getLast?.or (some (.opener .paren))⟩ := by
  rw [Machine.walk_append, walk_chain ht, walk_name, walk_opened hu]

/-! ### The grammar read off the machine -/

/-- The machine is behind a separator of a bracket if the tokens end in one. -/
theorem afterSeparator_iff (b : Bracket) : (Machine.walk {} ks).afterSeparator b ↔ EndsIn b ks := by
  unfold Machine.afterSeparator EndsIn
  rw [Machine.last_walk, Option.or_none, Bool.or_eq_true, beq_iff_eq, beq_iff_eq]

section

variable (hks : .eof ∉ ks)

include hks

/-- Whatever has been fed, the machine stands where the grammar has a place for
it. -/
theorem exists_stands {p : Position} (h : (Machine.walk {} ks).position = p) :
    ∃ fs, (Machine.walk {} ks).frames = fs ∧ Stands p fs ks :=
  ⟨_, rfl, h ▸ stands_walk ks hks⟩

/-- A name of a collection is looked for behind the word for the database and a
point, and nowhere else. -/
theorem eq_afterDbDot_iff : (Machine.walk {} ks).position = .afterDbDot ↔ ks = [.db, .dot] := by
  constructor
  · intro h
    obtain ⟨fs, -, hstands⟩ := exists_stands hks h
    cases hstands
    rfl
  · rintro rfl
    rfl

/-- An operation is looked for behind a collection and a point. -/
theorem eq_afterCollectionDot_iff : (Machine.walk {} ks).position = .afterCollectionDot ↔
    ∃ t, Chain 0 t ∧ ks = t ++ [.dot] := by
  constructor
  · intro h
    obtain ⟨fs, -, hstands⟩ := exists_stands hks h
    cases hstands with
    | afterCollectionDot ht => exact ⟨_, ht, rfl⟩
  · rintro ⟨t, ht, rfl⟩
    rw [Machine.walk_append, walk_chain ht]
    rfl

/-- A modifier is looked for behind one call at least and a point. -/
theorem eq_afterCallDot_iff : (Machine.walk {} ks).position = .afterCallDot ↔
    ∃ n t, Chain (n + 1) t ∧ ks = t ++ [.dot] := by
  constructor
  · intro h
    obtain ⟨fs, -, hstands⟩ := exists_stands hks h
    cases hstands with
    | afterCallDot ht => exact ⟨_, _, ht, rfl⟩
  · rintro ⟨n, t, ht, rfl⟩
    rw [Machine.walk_append, walk_chain ht]
    rfl

/-- **The brackets that are open** are those of the frames, the parenthesis of
the call the last of them. So the innermost bracket of the grammar is the
topmost frame of the machine. -/
theorem isInside_iff : IsInside bs ks ↔ (Machine.walk {} ks).position = .inside ∧
    (Machine.walk {} ks).frames.map Frame.bracket = bs ++ [.paren] := by
  constructor
  · rintro ⟨n, t, name, u, ht, hu, rfl⟩
    obtain ⟨fs, hu, hfs⟩ := hu.exists_opened (n == 0 && name == "aggregate")
    rw [walk_arguments ht name hu]
    exact ⟨rfl, hfs⟩
  · rintro ⟨hposition, hbrackets⟩
    obtain ⟨fs, hframes, hstands⟩ := exists_stands hks hposition
    rw [hframes] at hbrackets
    cases hstands with
    | inside ht name hu =>
      obtain ⟨bs', hopens, hbs'⟩ := hu.opens
      rw [hbrackets] at hbs'
      rw [List.append_cancel_right hbs']
      exact ⟨_, _, name, _, ht, hopens, rfl⟩

/-- Where the machine is inside arguments, the grammar is. -/
theorem exists_isInside (h : (Machine.walk {} ks).position = .inside) : ∃ bs, IsInside bs ks := by
  obtain ⟨fs, -, hstands⟩ := exists_stands hks h
  cases hstands with
  | inside ht name hu =>
    obtain ⟨bs, hopens, -⟩ := hu.opens
    exact ⟨bs, _, _, name, _, ht, hopens, rfl⟩

/-- A stage is looked for in the array of an aggregation, where an element
begins. -/
theorem isBeforeStage_iff : IsBeforeStage ks ↔ (Machine.walk {} ks).position = .inside ∧
    (Machine.walk {} ks).frames.head? = some (.array true) ∧
    (Machine.walk {} ks).afterSeparator .square := by
  rw [afterSeparator_iff, ← and_assoc]
  refine and_congr_left fun _ => ⟨?_, ?_⟩
  · rintro ⟨t, v, ht, hv, rfl⟩
    have hu : Opened true [.array true, .paren true] (.opener .square :: v) :=
      .opener .square (.nested .nil) hv
    rw [walk_arguments ht "aggregate" hu]
    exact ⟨rfl, rfl⟩
  · rintro ⟨hposition, hhead⟩
    obtain ⟨fs, hframes, hstands⟩ := exists_stands hks hposition
    rw [hframes] at hhead
    cases hstands with
    | @inside n t _ _ ht name hu =>
      obtain ⟨f, fs, rfl⟩ := List.exists_cons_of_ne_nil hu.ne_nil
      cases hhead
      obtain ⟨haggregate, v, hv, rfl⟩ := hu.of_head_pipeline
      rw [Bool.and_eq_true, beq_iff_eq, beq_iff_eq] at haggregate
      obtain ⟨rfl, rfl⟩ := haggregate
      exact ⟨t, v, ht, hv, rfl⟩

/-- The innermost frame is one of an object if the innermost open bracket is a
brace. -/
theorem IsInside.head?_eq_object_iff (h : IsInside bs ks) :
    (Machine.walk {} ks).frames.head? = some .object ↔ bs.head? = some .brace := by
  obtain ⟨-, hbrackets⟩ := (isInside_iff hks).mp h
  have hhead : ((Machine.walk {} ks).frames.head?).map Frame.bracket = bs.head?.or (some .paren) := by
    rw [← List.head?_map, hbrackets, List.head?_append]
    rfl
  constructor
  · intro hobject
    rw [hobject] at hhead
    cases bs with
    | nil => cases hhead
    | cons b bs => exact hhead.symm
  · intro hbrace
    rw [hbrace] at hhead
    obtain ⟨f, hf, hbracket⟩ := Option.map_eq_some_iff.mp hhead
    rw [hf]
    cases f with
    | object => rfl
    | _ => cases hbracket

/-- **The machine offers what fits**: what it stands for behind some tokens is
what the grammar of positions says of these tokens. One direction comes from
`stands_walk`, the other from the walks along derived lists. -/
theorem offers_walk_iff (typed : List Char) (slot : Slot) :
    (Machine.walk {} ks).Offers typed slot ↔ Fits ks typed slot := by
  cases slot with
  | collection => exact eq_afterDbDot_iff hks
  | method => exact eq_afterCollectionDot_iff hks
  | modifier => exact eq_afterCallDot_iff hks
  | stage => exact (isBeforeStage_iff hks).symm
  | operator =>
    unfold Machine.Offers Fits
    rw [isBeforeStage_iff hks]
    constructor
    · rintro ⟨hposition, hstage, hoperator⟩
      obtain ⟨bs, hinside⟩ := exists_isInside hks hposition
      rw [hinside.head?_eq_object_iff hks, afterSeparator_iff] at hoperator
      exact ⟨fun h => hstage h.2, bs, hinside, hoperator⟩
    · rintro ⟨hstage, bs, hinside, hoperator⟩
      obtain ⟨hposition, -⟩ := (isInside_iff hks).mp hinside
      rw [← hinside.head?_eq_object_iff hks, ← afterSeparator_iff] at hoperator
      exact ⟨hposition, fun h => hstage ⟨hposition, h⟩, hoperator⟩
  | field reference => exact Iff.rfl

/-- **The machine decides the grammar.** Behind any tokens it finds a slot
exactly where the grammar says that it fits, and at most one slot does. -/
theorem context?_walk_eq_some_iff (typed : List Char) (c : Context) :
    (Machine.walk {} ks).context? typed = some c ↔ typed = c.typed ∧ Fits ks typed c.slot := by
  rw [Machine.context?_eq_some_iff, offers_walk_iff hks]

end

end QueryShell.Completion
