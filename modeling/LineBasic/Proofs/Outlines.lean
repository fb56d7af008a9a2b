/-
# Outlines

The outline of a tree has a line for each node, in pre-order.  It closes nothing and escapes
nothing: what belongs to what is said by indentation alone, and a value may hold blanks and quotes.
All the same **the outline determines the tree** (`dump_eq_dump_iff`), as long as no value goes over
the end of its line.  The text is read back in two stages.

* **Lines.**  A line begins with blanks, as many as its depth asks for, because the name of a kind
  does not begin with one.  The name goes up to the next blank.  The value is all that follows but
  the quotes around it (`Entry.line_append_inj`).
* **Nesting.**  The entries behind a node that are deeper than it are the entries of its children.
  So a list of trees at one depth can be read off the front of the entries, whatever follows, if
  that is not as deep (`entriesAll_append_inj`).
-/
import LineBasic.Proofs.Listing
import LineBasic.Proofs.ProgramInvariant

namespace LineBasic

/-! ## 1. Names of kinds -/

namespace Kind

/-- The kinds with a name of their own. -/
def named : List Kind :=
  [.program, .line, .lineNumber, .statementName, .string, .number, .float, .identifier, .symbol,
    .expression]

theorem mem_named_or_other (kind : Kind) : kind ∈ named ∨ ∃ code, kind = .other code := by
  cases kind with
  | other code => exact .inr ⟨code, rfl⟩
  | _ => exact .inl (by decide)

theorem toList_name_other (code : Int) :
    (other code).name.toList = 'K' :: ("ind(".toList ++ code.repr.toList ++ [')']) := by
  rw [name, Int.toString_eq_repr]
  simp [toString]

/-- A character that the name of a kind may hold: no blank and no newline. -/
def isNameChar (c : Char) : Bool := c ≠ ' ' && c ≠ '\n'

theorem isNameChar_of_isDigit {c : Char} (h : c.isDigit) : isNameChar c := by
  rw [isNameChar, Bool.and_eq_true, decide_eq_true_eq, decide_eq_true_eq]
  constructor
  · rintro rfl
    cases h
  · rintro rfl
    cases h

theorem all_isNameChar_repr (code : Int) : code.repr.toList.all isNameChar := by
  have decimal : ∀ n : Nat, n.repr.toList.all isNameChar := by
    intro n
    rw [List.all_eq_true, Nat.toList_repr]
    intro c hc
    exact isNameChar_of_isDigit (Nat.isDigit_of_mem_toDigits (by decide) (by decide) hc)
  cases code with
  | ofNat n => exact decimal n
  | negSucc n =>
    rw [Int.repr, String.toList_append, List.all_append, decimal, Bool.and_true]
    rfl

/-- **The name of a kind has no blank and stays on its line.** -/
theorem all_isNameChar_name (kind : Kind) : kind.name.toList.all isNameChar := by
  rcases mem_named_or_other kind with h | ⟨code, rfl⟩
  · revert kind
    decide
  · rw [toList_name_other, List.all_cons, List.all_append, List.all_append, all_isNameChar_repr]
    rfl

theorem name_ne_nil (kind : Kind) : kind.name.toList ≠ [] := by
  rcases mem_named_or_other kind with h | ⟨code, rfl⟩
  · revert kind
    decide
  · rw [toList_name_other]
    exact List.cons_ne_nil _ _

/-- Only the name of a kind that is not known begins like this. -/
theorem head?_name_of_mem_named {kind : Kind} (h : kind ∈ named) :
    kind.name.toList.head? ≠ some 'K' := by
  revert kind
  decide

/-- **No two kinds have one name.** -/
theorem name_injective {k k' : Kind} (h : k.name = k'.name) : k = k' := by
  rcases mem_named_or_other k with hk | ⟨code, rfl⟩ <;>
    rcases mem_named_or_other k' with hk' | ⟨code', rfl⟩
  · exact List.inj_on_of_nodup_map (f := name) (by decide) hk hk' h
  · refine absurd ?_ (head?_name_of_mem_named hk)
    rw [h, toList_name_other, List.head?_cons]
  · refine absurd ?_ (head?_name_of_mem_named hk')
    rw [← h, toList_name_other, List.head?_cons]
  · have lists := congrArg String.toList h
    rw [toList_name_other, toList_name_other, List.cons.injEq, List.append_left_inj,
      List.append_right_inj, String.toList_inj, Int.repr_inj] at lists
    rw [lists.2]

end Kind

namespace Node

/-! ## 2. Lines -/

/-- What a line of an outline says of its node. -/
structure Entry where
  depth : Nat
  kind : Kind
  value : String

/-- The line of an entry. -/
def Entry.line (e : Entry) : String :=
  indentation e.depth ++ e.kind.name ++ " '" ++ e.value ++ "'\n"

/-- The value does not go over the end of its line. -/
def Entry.OneLine (e : Entry) : Prop := '\n' ∉ e.value.toList

/-- The name and the value of an entry, up to the end of its line. -/
def Entry.body (e : Entry) : List Char :=
  e.kind.name.toList ++ ' ' :: ("'".toList ++ e.value.toList ++ "'".toList)

theorem Entry.toList_line (e : Entry) :
    e.line.toList = List.replicate (2 * e.depth) ' ' ++ (e.body ++ ['\n']) := by
  simp [line, body, indentation]

theorem Entry.newline_notMem_body {e : Entry} (h : e.OneLine) : '\n' ∉ e.body := by
  intro mem
  rw [body, List.mem_append, List.mem_cons, List.mem_append, List.mem_append] at mem
  rcases mem with mem | mem | (mem | mem) | mem
  · cases List.all_eq_true.mp (Kind.all_isNameChar_name e.kind) _ mem
  · cases mem
  · exact absurd mem (by decide)
  · exact h mem
  · exact absurd mem (by decide)

/-- A line has exactly the blanks at its front that its depth asks for. -/
theorem Entry.blanks_line (e : Entry) (rest : List Char) :
    (e.line.toList ++ rest).takeWhile (· = ' ') = List.replicate (2 * e.depth) ' ' := by
  obtain ⟨c, cs, hname⟩ := List.exists_cons_of_ne_nil (Kind.name_ne_nil e.kind)
  have visible : c ≠ ' ' := by
    rintro rfl
    cases List.all_eq_true.mp (Kind.all_isNameChar_name e.kind) ' ' (by simp [hname])
  rw [toList_line, List.append_assoc, List.takeWhile_append_of_pos (by simp), body, hname]
  simp [visible]

/-- Two texts that agree are cut at the same place by the first of a mark. -/
theorem append_cons_inj_of_notMem {α : Type} {mark : α} {xs ys rest rest' : List α}
    (hxs : mark ∉ xs) (hys : mark ∉ ys) (h : xs ++ mark :: rest = ys ++ mark :: rest') :
    xs = ys ∧ rest = rest' := by
  induction xs generalizing ys with
  | nil =>
    cases ys with
    | nil => exact ⟨rfl, (List.cons.inj h).2⟩
    | cons y ys => exact absurd (List.cons.inj h).1 fun same => hys (by simp [same])
  | cons x xs ih =>
    cases ys with
    | nil => exact absurd (List.cons.inj h).1 fun same => hxs (by simp [same])
    | cons y ys =>
      obtain ⟨rfl, behind⟩ := List.cons.inj h
      obtain ⟨rfl, rest⟩ := ih (List.not_mem_of_not_mem_cons hxs)
        (List.not_mem_of_not_mem_cons hys) behind
      exact ⟨rfl, rest⟩

/-- The name goes up to the first blank, and the value is what the quotes leave. -/
theorem Entry.eq_of_body {e f : Entry} (depth : e.depth = f.depth) (h : e.body = f.body) :
    e = f := by
  have noBlank : ∀ k : Kind, ' ' ∉ k.name.toList := by
    intro k mem
    cases List.all_eq_true.mp (Kind.all_isNameChar_name k) _ mem
  obtain ⟨name, value⟩ := append_cons_inj_of_notMem (noBlank _) (noBlank _) h
  rw [List.append_left_inj, List.append_right_inj, String.toList_inj] at value
  obtain ⟨d, k, v⟩ := e
  obtain ⟨d', k', v'⟩ := f
  obtain rfl : k = k' := Kind.name_injective (String.toList_inj.mp name)
  obtain rfl : d = d' := depth
  obtain rfl : v = v' := value
  rfl

/-- **A line can be read off the front of a text**, whatever follows. -/
theorem Entry.line_append_inj {e f : Entry} {rest rest' : List Char} (he : e.OneLine)
    (hf : f.OneLine) (h : e.line.toList ++ rest = f.line.toList ++ rest') :
    e = f ∧ rest = rest' := by
  have blanks := congrArg (List.takeWhile (· = ' ')) h
  rw [e.blanks_line, f.blanks_line, List.replicate_inj] at blanks
  have depth : e.depth = f.depth := by omega
  have bodies : e.body ++ '\n' :: rest = f.body ++ '\n' :: rest' := by
    rw [e.toList_line, f.toList_line, depth] at h
    simpa using h
  obtain ⟨body, rest⟩ :=
    append_cons_inj_of_notMem (newline_notMem_body he) (newline_notMem_body hf) bodies
  exact ⟨eq_of_body depth body, rest⟩

theorem Entry.line_append_ne_empty (e : Entry) (rest : String) : e.line ++ rest ≠ "" := by
  intro h
  have lists := congrArg String.toList h
  simp [toList_line] at lists

/-- **The lines of a text determine the entries.** -/
theorem eq_of_join_lines {es fs : List Entry} (hes : ∀ e ∈ es, e.OneLine)
    (hfs : ∀ f ∈ fs, f.OneLine)
    (h : String.join (es.map Entry.line) = String.join (fs.map Entry.line)) : es = fs := by
  induction es generalizing fs with
  | nil =>
    cases fs with
    | nil => rfl
    | cons f fs =>
      rw [List.map_cons, String.join_cons] at h
      exact absurd h.symm (f.line_append_ne_empty _)
  | cons e es ih =>
    cases fs with
    | nil =>
      rw [List.map_cons, String.join_cons] at h
      exact absurd h (e.line_append_ne_empty _)
    | cons f fs =>
      rw [List.map_cons, List.map_cons, String.join_cons, String.join_cons, ← String.toList_inj,
        String.toList_append, String.toList_append] at h
      obtain ⟨rfl, behind⟩ := Entry.line_append_inj (hes e (by simp)) (hfs f (by simp)) h
      have rest : es = fs := ih (fun e' he' => hes e' (by simp [he']))
        (fun f' hf' => hfs f' (by simp [hf'])) (String.toList_inj.mp behind)
      rw [rest]

/-! ## 3. Nesting -/

mutual

/-- The entries of a tree at a depth, in pre-order. -/
def entries (depth : Nat) : Node → List Entry
  | hole => []
  | mk kind value children => ⟨depth, kind, value⟩ :: entriesAll (depth + 1) children

/-- The entries of a list of trees. -/
def entriesAll (depth : Nat) : List Node → List Entry
  | [] => []
  | n :: ns => entries depth n ++ entriesAll depth ns

end

mutual

/-- **An outline is the lines of its entries.** -/
theorem dumpAt_eq : ∀ (depth : Nat) (n : Node),
    dumpAt depth n = String.join ((entries depth n).map Entry.line)
  | _, hole => rfl
  | depth, mk kind value children => by
    rw [dumpAt, entries, dumpAllAt_eq (depth + 1) children, List.map_cons, String.join_cons]
    rfl

theorem dumpAllAt_eq : ∀ (depth : Nat) (ns : List Node),
    dumpAllAt depth ns = String.join ((entriesAll depth ns).map Entry.line)
  | _, [] => rfl
  | depth, n :: ns => by
    rw [dumpAllAt, entriesAll, dumpAt_eq depth n, dumpAllAt_eq depth ns, List.map_append,
      String.join_append]

end

/-- No empty place in the tree. -/
def IsWhole (n : Node) : Prop := ∀ m ∈ n.subtrees, m ≠ hole

theorem mem_subtreesAll_of_mem {m n : Node} {ns : List Node} (hn : n ∈ ns) (hm : m ∈ n.subtrees) :
    m ∈ subtreesAll ns := by
  induction ns with
  | nil => cases hn
  | cons n' ns ih =>
    rcases List.mem_cons.mp hn with rfl | hn
    · exact List.mem_append_left _ hm
    · exact List.mem_append_right _ (ih hn)

theorem IsWhole.children {kind : Kind} {value : String} {children : List Node}
    (h : (mk kind value children).IsWhole) : ∀ n ∈ children, n.IsWhole := by
  intro n hn m hm
  exact h m (List.mem_cons_of_mem _ (mem_subtreesAll_of_mem hn hm))

/-- The first entry, if there is one, is above a depth. -/
def StartsAbove (depth : Nat) (es : List Entry) : Prop := ∀ e ∈ es.head?, e.depth < depth

/-- What follows a tree among its siblings is above its children. -/
theorem startsAbove_entriesAll_append {depth : Nat} {ns : List Node} {rest : List Entry}
    (whole : ∀ n ∈ ns, n.IsWhole) (above : StartsAbove depth rest) :
    StartsAbove (depth + 1) (entriesAll depth ns ++ rest) := by
  intro e he
  cases ns with
  | nil => exact Nat.lt_succ_of_lt (above e he)
  | cons n ns =>
    cases n with
    | hole => exact absurd rfl (whole hole (by simp) hole (List.mem_singleton_self hole))
    | mk kind value children =>
      cases he
      exact Nat.lt_succ_self depth

/-- A list of trees that is not empty does not start above its depth. -/
theorem not_startsAbove_entriesAll {depth : Nat} {n : Node} {ns : List Node} {rest : List Entry}
    (whole : n.IsWhole) : ¬ StartsAbove depth (entriesAll depth (n :: ns) ++ rest) := by
  intro above
  cases n with
  | hole => exact whole hole (List.mem_singleton_self hole) rfl
  | mk kind value children => exact Nat.lt_irrefl depth (above ⟨depth, kind, value⟩ rfl)

mutual

/-- A tree can be read off the front of the entries, if what follows is not as deep as its
children. -/
theorem entries_append_inj : ∀ (n m : Node) {depth : Nat} {rest rest' : List Entry},
    n.IsWhole → m.IsWhole → StartsAbove (depth + 1) rest → StartsAbove (depth + 1) rest' →
      entries depth n ++ rest = entries depth m ++ rest' → n = m ∧ rest = rest'
  | hole, _, _, _, _, hn, _, _, _, _ => absurd rfl (hn hole (List.mem_singleton_self hole))
  | _, hole, _, _, _, _, hm, _, _, _ => absurd rfl (hm hole (List.mem_singleton_self hole))
  | mk kind value ns, mk kind' value' ms, depth, _, _, hn, hm, above, above', h => by
    obtain ⟨first, behind⟩ := List.cons.inj h
    obtain ⟨rfl, rest⟩ := entriesAll_append_inj ns ms hn.children hm.children above above' behind
    cases first
    exact ⟨rfl, rest⟩

/-- **Trees at one depth can be read off the front of the entries**, if what follows is not as
deep. -/
theorem entriesAll_append_inj : ∀ (ns ms : List Node) {depth : Nat} {rest rest' : List Entry},
    (∀ n ∈ ns, n.IsWhole) → (∀ m ∈ ms, m.IsWhole) → StartsAbove depth rest →
      StartsAbove depth rest' → entriesAll depth ns ++ rest = entriesAll depth ms ++ rest' →
        ns = ms ∧ rest = rest'
  | [], [], _, _, _, _, _, _, _, h => ⟨rfl, h⟩
  | [], m :: ms, _, _, _, _, hms, above, _, h => by
    rw [entriesAll, List.nil_append] at h
    exact absurd (h ▸ above) (not_startsAbove_entriesAll (hms m (by simp)))
  | n :: ns, [], _, _, _, hns, _, _, above', h => by
    rw [entriesAll, List.nil_append] at h
    exact absurd (h ▸ above') (not_startsAbove_entriesAll (hns n (by simp)))
  | n :: ns, m :: ms, _, _, _, hns, hms, above, above', h => by
    have hns' : ∀ n' ∈ ns, n'.IsWhole := fun n' hn' => hns n' (by simp [hn'])
    have hms' : ∀ m' ∈ ms, m'.IsWhole := fun m' hm' => hms m' (by simp [hm'])
    rw [entriesAll, entriesAll, List.append_assoc, List.append_assoc] at h
    obtain ⟨rfl, behind⟩ := entries_append_inj n m (hns n (by simp)) (hms m (by simp))
      (startsAbove_entriesAll_append hns' above) (startsAbove_entriesAll_append hms' above') h
    obtain ⟨rfl, rest⟩ := entriesAll_append_inj ns ms hns' hms' above above' behind
    exact ⟨rfl, rest⟩

end

/-! ## 4. Trees -/

mutual

/-- Trees that agree in kinds, values and shape are the same tree. -/
theorem eq_of_equal : ∀ {n m : Node}, n.equal m → n = m
  | hole, hole, _ => rfl
  | mk kind value ns, mk kind' value' ms, h => by
    simp only [equal, Bool.and_eq_true, decide_eq_true_eq] at h
    obtain ⟨⟨rfl, rfl⟩, children⟩ := h
    rw [eq_of_equalAll children]

theorem eq_of_equalAll : ∀ {ns ms : List Node}, equalAll ns ms → ns = ms
  | [], [], _ => rfl
  | n :: ns, m :: ms, h => by
    rw [equalAll, Bool.and_eq_true] at h
    rw [eq_of_equal h.1, eq_of_equalAll h.2]

end

mutual

/-- The values in the entries are the values in the tree. -/
theorem exists_of_mem_entries : ∀ {depth : Nat} {n : Node} {e : Entry}, e ∈ entries depth n →
    ∃ m ∈ n.subtrees, m.value = e.value
  | _, mk kind value children, e, he => by
    rcases List.mem_cons.mp he with rfl | he
    · exact ⟨mk kind value children, List.mem_cons_self, rfl⟩
    · obtain ⟨m, hm, same⟩ := exists_of_mem_entriesAll he
      exact ⟨m, List.mem_cons_of_mem _ hm, same⟩

theorem exists_of_mem_entriesAll : ∀ {depth : Nat} {ns : List Node} {e : Entry},
    e ∈ entriesAll depth ns → ∃ m ∈ subtreesAll ns, m.value = e.value
  | _, n :: ns, e, he => by
    rcases List.mem_append.mp he with he | he
    · obtain ⟨m, hm, same⟩ := exists_of_mem_entries he
      exact ⟨m, List.mem_append_left _ hm, same⟩
    · obtain ⟨m, hm, same⟩ := exists_of_mem_entriesAll he
      exact ⟨m, List.mem_append_right _ hm, same⟩

end

/-- **The outline determines the tree.**  Two trees without empty places, of any kinds and with any
values that have no newline in them, have one outline iff they agree in kinds, values and shape. -/
theorem dump_eq_dump_iff {a b : Node} (wholeA : ∀ n ∈ a.subtrees, n ≠ hole)
    (wholeB : ∀ n ∈ b.subtrees, n ≠ hole) (linesA : ∀ n ∈ a.subtrees, '\n' ∉ n.value.toList)
    (linesB : ∀ n ∈ b.subtrees, '\n' ∉ n.value.toList) : a.dump = b.dump ↔ a.equal b := by
  constructor
  · intro h
    rw [dump, dump, dumpAt_eq, dumpAt_eq] at h
    have oneLine : ∀ {n : Node}, (∀ m ∈ n.subtrees, '\n' ∉ m.value.toList) →
        ∀ e ∈ entries 0 n, e.OneLine := by
      intro n hn e he
      obtain ⟨m, hm, same⟩ := exists_of_mem_entries he
      rw [Entry.OneLine, ← same]
      exact hn m hm
    have same : entries 0 a ++ [] = entries 0 b ++ [] := by
      rw [eq_of_join_lines (oneLine linesA) (oneLine linesB) h]
    have nothing : StartsAbove (0 + 1) [] := fun e he => absurd he (by simp)
    obtain ⟨rfl, -⟩ := entries_append_inj a b wholeA wholeB nothing nothing same
    exact equal_self a
  · intro h
    rw [eq_of_equal h]

/-- A node of a kind that is not known, with a value that looks like the end of a line, and a leaf
that stands below it in one tree and behind it in the other. -/
theorem dump_eq_dump_iff_nested :
    let odd := fun children => mk (.other (-7)) "' it's '" children
    let below := line [odd [leaf .symbol ")"]]
    let behind := line [odd [], leaf .symbol ")"]
    (below.dump = behind.dump ↔ below.equal behind) ∧ below.dump ≠ behind.dump := by
  intro odd below behind
  have iff : below.dump = behind.dump ↔ below.equal behind := by
    apply dump_eq_dump_iff
    · simp [below, odd, line, leaf, subtrees, subtreesAll]
    · simp [behind, odd, line, leaf, subtrees, subtreesAll]
    · simp [below, odd, line, leaf, subtrees, subtreesAll, value]
    · simp [behind, odd, line, leaf, subtrees, subtreesAll, value]
  refine ⟨iff, fun same => ?_⟩
  cases iff.mp same

end Node

end LineBasic
