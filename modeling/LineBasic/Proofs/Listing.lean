/-
# Listing and loading

A program is listed as the tokens of its lines, with single blanks between them and a newline behind
each line.  Read again, the listing falls into the same lines (`lines_source`): blanks and newlines
outside strings separate (`lines_join`), so the tokens come back, and a program line is read from
just those tokens.  Loading then stores each line under its number, in ascending order, which
rebuilds the program (`foldl_insert_entries`).

A string that was never closed is the one thing that cannot be listed: it would go on into the next
line.
-/
import Mathlib
import LineBasic.Proofs.History

namespace LineBasic

open Source (Line)

/-! ## 1. Joined tokens -/

namespace Token

/-- The text ends in a character that is neither a blank nor a newline. -/
def EndsVisibly (cs : List Char) : Prop := ∃ front c, cs = front ++ [c] ∧ c ≠ ' ' ∧ c ≠ '\n'

theorem EndsVisibly.append {b : List Char} (h : EndsVisibly b) (a : List Char) :
    EndsVisibly (a ++ b) := by
  obtain ⟨front, c, rfl, visible⟩ := h
  exact ⟨a ++ front, c, by simp, visible⟩

theorem endsVisibly_of_forall {cs : List Char} (hne : cs ≠ [])
    (h : ∀ c ∈ cs, c ≠ ' ' ∧ c ≠ '\n') : EndsVisibly cs :=
  ⟨cs.dropLast, cs.getLast hne, (List.dropLast_append_getLast hne).symm,
    h _ (List.getLast_mem hne)⟩

theorem IsNumeral.endsVisibly {cs : List Char} (h : IsNumeral cs) : EndsVisibly cs := by
  refine endsVisibly_of_forall h.ne_nil ?_
  obtain ⟨first, others, -⟩ := h
  intro d hd
  rcases List.mem_cons.mp hd with rfl | hd
  · exact (plain_of_opensNumeral first).2
  · have := others d hd
    simp only [Bool.or_eq_true] at this
    rcases this with (hd | hd) | hd
    · exact (plain_of_opensNumeral hd).2
    · exact (plain_of_isAlpha (isAlpha_of_isExponentMark hd)).2
    · exact (plain_of_isSign hd).2

theorem IsStem.endsVisibly {cs : List Char} (h : IsStem cs) : EndsVisibly cs := by
  obtain ⟨-, hc, hrest⟩ := h
  refine (endsVisibly_of_forall (by simp) ?_).append _
  intro d hd
  rcases List.mem_cons.mp hd with rfl | hd
  · exact (plain_of_isAlpha hc).2
  · rcases (Bool.or_eq_true _ _).mp (hrest d hd) with hd | hd
    · exact (plain_of_isAlpha hd).2
    · exact (plain_of_opensNumeral (by simp [opensNumeral, hd])).2

/-- Tokens other than the newline end visibly. -/
theorem IsToken.endsVisibly {t : String} (h : IsToken t.toList) (hne : t ≠ Token.newline) :
    EndsVisibly t.toList := by
  generalize hcs : t.toList = cs at h
  cases h with
  | newline =>
    have same : t.toList = Token.newline.toList := hcs
    exact absurd (String.toList_inj.mp same) hne
  | literal _ => exact ⟨'"' :: _, '"', rfl, by decide, by decide⟩
  | symbol hc =>
    simp only [isSymbolChar, Bool.and_eq_true, decide_eq_true_eq] at hc
    exact ⟨[], _, rfl, hc.1.1.1.1.2, hc.1.1.1.2⟩
  | numeral h => exact h.endsVisibly
  | word h => exact h.endsVisibly
  | markedWord _ hc => exact ⟨_, _, rfl, (plain_of_isTypeMark hc).2⟩

/-- A line of closed tokens. -/
structure IsClosedLine (ts : List String) : Prop where
  tokens : ∀ t ∈ ts, IsToken t.toList
  oneLine : newline ∉ ts

theorem outsideString_append_blank {a b : List Char} (ha : OutsideString a)
    (hb : OutsideString b) : OutsideString (a ++ ' ' :: b) := by
  have holds := (Scan.sound_run .nothing a).2
  simpa only [OutsideString, Scan.run_append, Scan.run, Scan.step_blank holds ha] using hb

theorem outsideString_intercalate {ts : List String} (h : ∀ t ∈ ts, IsToken t.toList) :
    OutsideString (" ".intercalate ts).toList := by
  induction ts with
  | nil => exact fun h => nomatch h
  | cons t ts ih =>
    have first := outsideString_token (h t (by simp))
    cases ts with
    | nil => rwa [String.intercalate_singleton]
    | cons u us =>
      have rest := ih fun t' ht' => h t' (by simp [ht'])
      rw [String.intercalate_cons_cons, String.toList_append, String.toList_append]
      simpa using outsideString_append_blank first rest

theorem endsVisibly_intercalate {ts : List String} (h : ∀ t ∈ ts, EndsVisibly t.toList)
    (hne : ts ≠ []) : EndsVisibly (" ".intercalate ts).toList := by
  induction ts with
  | nil => exact absurd rfl hne
  | cons t ts ih =>
    cases ts with
    | nil =>
      rw [String.intercalate_singleton]
      exact h t (by simp)
    | cons u us =>
      rw [String.intercalate_cons_cons, String.toList_append]
      exact (ih (fun t' ht' => h t' (by simp [ht'])) (by simp)).append _

end Token

/-! ## 2. The text of a line -/

theorem Node.trimEnd_append_blank {s : String} (h : Token.EndsVisibly s.toList) :
    trimEnd (s ++ " ") = s := by
  obtain ⟨front, c, hs, hb, hn⟩ := h
  rw [← String.toList_inj]
  simp [trimEnd, Text.dropEndWhile, hs, hb, hn]

theorem spelling_eq_intercalate {leaves : List Node} (h : leaves ≠ []) :
    spelling leaves = " ".intercalate (leaves.map Node.value) ++ " " := by
  induction leaves with
  | nil => exact absurd rfl h
  | cons n ns ih =>
    cases ns with
    | nil => simp [spelling]
    | cons m ms =>
      have rest := ih (by simp)
      simp only [spelling, List.map_cons, String.join_cons] at rest ⊢
      rw [rest, String.intercalate_cons_cons, String.append_assoc, String.append_assoc,
        String.append_assoc]

namespace Source

theorem map_value_leaves (ts : List String) : (leaves ts).map Node.value = ts := by
  cases ts with
  | nil => rfl
  | cons t ts => simp [leaves, classify, Node.leaf, Node.value, Function.comp_def]

/-- **The text of a line is its tokens, with blanks between them.** -/
theorem ReadFrom.text {ts : List String} {l : Line} (h : ReadFrom ts l)
    (closed : Token.IsClosedLine ts) : l.text = .ok (" ".intercalate ts) := by
  have visible : Token.EndsVisibly (" ".intercalate ts).toList := by
    refine Token.endsVisibly_intercalate (fun t ht => ?_) h.nonempty
    exact (closed.tokens t ht).endsVisibly fun hnl => closed.oneLine (hnl ▸ ht)
  have hne : Source.leaves ts ≠ [] := by
    intro hnil
    exact h.nonempty (by rw [← map_value_leaves ts, hnil, List.map_nil])
  show (Node.spellAll l.nodes).map Node.trimEnd = _
  rw [Fold.spellAll_of_grown h.grown, h.leaves, spelling_eq_intercalate hne, map_value_leaves,
    Except.map, Node.trimEnd_append_blank visible]

/-- **Lines of closed tokens are read back.** -/
theorem lines_join {tss : List (List String)} (h : ∀ ts ∈ tss, Token.IsClosedLine ts) :
    lines (String.join (tss.map fun ts => " ".intercalate ts ++ "\n"))
      = tss.map fun ts => (readLine ts).value := by
  rw [lines_eq]
  congr 1
  induction tss with
  | nil => rfl
  | cons ts tss ih =>
    obtain ⟨htokens, oneLine⟩ := h ts (by simp)
    have hts : Token.IsTokenList ts := by
      simpa using Token.IsTokenList.append htokens .nil
    rw [List.map_cons, String.join_cons,
      Token.tokens_append_newline (Token.outsideString_intercalate htokens),
      Token.tokens_intercalate hts, segments_append_newline oneLine,
      ih fun us hus => h us (by simp [hus])]

end Source

/-! ## 3. The listing -/

/-- A string token that was never closed: only its quote, or a last character that is none. -/
def Token.isUnterminated (t : String) : Bool :=
  t.toList.head? = some '"' && (t = "\"" || t.toList.getLast? ≠ some '"')

theorem Token.isUnterminated_of_isOpenLiteral {t : String} (h : IsOpenLiteral t.toList) :
    isUnterminated t := by
  generalize hcs : t.toList = cs at h
  obtain ⟨noQuote⟩ := h
  rename_i cs
  rcases List.eq_nil_or_concat' cs with rfl | ⟨front, c, rfl⟩
  · have lone : t = "\"" := String.toList_inj.mp hcs
    simp [isUnterminated, lone]
  · have hc : c ≠ '"' := by
      rintro rfl
      simp at noQuote
    have first : t.toList.head? = some '"' := by
      rw [hcs, List.head?_cons]
    have last : t.toList.getLast? = some c := by
      rw [hcs, ← List.cons_append, List.getLast?_concat]
    simp [isUnterminated, first, last, hc]

/-- Every string of the line was closed. -/
def Source.Line.Closed (l : Line) : Prop :=
  ∀ leaf ∈ l.node.leaves, ¬ Token.isUnterminated leaf.value

instance (l : Line) : Decidable l.Closed :=
  inferInstanceAs (Decidable (∀ leaf ∈ l.node.leaves, ¬ Token.isUnterminated leaf.value))

theorem Source.ReadFrom.isClosedLine {ts : List String} {l : Line} (h : ReadFrom ts l)
    (closed : l.Closed) : Token.IsClosedLine ts where
  tokens := by
    intro t ht
    refine (h.tokens t ht).resolve_right fun hopen => ?_
    rw [← map_value_leaves ts] at ht
    obtain ⟨leaf, hleaf, rfl⟩ := List.mem_map.mp ht
    have mem : leaf ∈ l.node.leaves := by
      show leaf ∈ Node.leavesAll l.nodes
      rwa [h.leaves]
    exact closed leaf mem (Token.isUnterminated_of_isOpenLiteral hopen)
  oneLine := h.oneLine

namespace Interpreter

theorem source_of_lineTexts {i : Interpreter} {texts : List String}
    (h : lineTexts i.program.entries = .ok texts) : i.source = String.join texts := by
  unfold source list
  rw [h]
  cases texts <;> rfl

/-- Program lines are listed as the tokens they are read from. -/
theorem exists_lineTexts {entries : List (UInt16 × Line)}
    (stored : ∀ e ∈ entries, IsProgramLine e.1 e.2) (closed : ∀ e ∈ entries, e.2.Closed) :
    ∃ tss : List (List String), (∀ ts ∈ tss, Token.IsClosedLine ts)
      ∧ (tss.map fun ts => (Source.readLine ts).value) = entries.map (·.2)
      ∧ lineTexts entries = .ok (tss.map fun ts => " ".intercalate ts ++ "\n") := by
  induction entries with
  | nil => exact ⟨[], by simp, rfl, rfl⟩
  | cons e entries ih =>
    obtain ⟨ts, hts⟩ := (stored e (by simp)).exists_readFrom
    have hclosed := hts.isClosedLine (closed e (by simp))
    obtain ⟨tss, htss, hlines, htexts⟩ :=
      ih (fun e' he' => stored e' (by simp [he'])) fun e' he' => closed e' (by simp [he'])
    refine ⟨ts :: tss, ?_, ?_, ?_⟩
    · intro us hus
      rcases List.mem_cons.mp hus with rfl | hus
      · exact hclosed
      · exact htss us hus
    · rw [List.map_cons, List.map_cons, hts.line, hlines]
    · rw [lineTexts, hts.text hclosed, htexts]
      rfl

/-- **A listing is read as the lines listed.** -/
theorem lines_source {i : Interpreter} (stored : FromSource i.program)
    (closed : ∀ e ∈ i.program.entries, e.2.Closed) :
    Source.lines i.source = i.program.entries.map (·.2) := by
  obtain ⟨tss, htss, hlines, htexts⟩ := exists_lineTexts stored closed
  rw [source_of_lineTexts htexts, Source.lines_join htss, hlines]

end Interpreter

/-! ## 4. Loading program lines -/

section Rebuild

variable {κ α : Type} [Ord κ] [Std.TransOrd κ]

/-- A key beyond all others goes to the end. -/
theorem insertEntry_of_forall_lt {k : κ} {a : α} {entries : List (κ × α)}
    (h : ∀ e ∈ entries, compare e.1 k = .lt) : insertEntry k a entries = entries ++ [(k, a)] := by
  induction entries with
  | nil => rfl
  | cons e entries ih =>
    have gt : compare k e.1 = .gt := Std.OrientedCmp.gt_of_lt (h e (by simp))
    rw [insertEntry, gt]
    simp [ih fun e' he' => h e' (by simp [he'])]

theorem entries_foldl_insert {entries : List (κ × α)} {m : SortedMap κ α}
    (h : Ascending (m.entries ++ entries)) :
    (entries.foldl (fun m e => m.insert e.1 e.2) m).entries = m.entries ++ entries := by
  induction entries generalizing m with
  | nil => simp
  | cons e entries ih =>
    have inserted : (m.insert e.1 e.2).entries = m.entries ++ [e] := by
      refine insertEntry_of_forall_lt fun e' he' => ?_
      exact (List.pairwise_append.mp h).2.2 e' he' e (by simp)
    rw [List.foldl_cons, ih (by rw [inserted]; simpa using h), inserted]
    simp

/-- **A map is rebuilt from its entries.** -/
theorem foldl_insert_entries (m : SortedMap κ α) :
    m.entries.foldl (fun m e => m.insert e.1 e.2) .empty = m := by
  have same := entries_foldl_insert (m := SortedMap.empty) m.ascending
  generalize m.entries.foldl _ _ = rebuilt at same ⊢
  obtain ⟨entries, ascending⟩ := m
  obtain ⟨_, _⟩ := rebuilt
  cases same
  rfl

end Rebuild

namespace Interpreter

variable (out : Stream)

/-- Program lines are stored one after the other, and nothing else happens. -/
theorem loadLines_stored {entries : List (UInt16 × Line)}
    (stored : ∀ e ∈ entries, IsProgramLine e.1 e.2) (i : Interpreter) (first : Nat) :
    let t := i.loadLines out first (entries.map (·.2))
    t.answer = [] ∧ t.writes = [] ∧
      t.interpreter = ⟨entries.foldl (fun m e => m.insert e.1 e.2) i.program, i.store⟩ := by
  induction entries generalizing i first with
  | nil => exact ⟨rfl, rfl, rfl⟩
  | cons e entries ih =>
    obtain ⟨statement, hne, hparts⟩ := (stored e (by simp)).numbered
    have later := ih (fun e' he' => stored e' (by simp [he']))
      { i with program := i.program.insert e.1 e.2 } (first + 1)
    rw [List.map_cons, loadLines, enterLine_stored out i hparts hne]
    exact later

/-- **Loading a listing gives the program back**, with no variables. -/
theorem load_listing {i : Interpreter} (stored : FromSource i.program)
    (closed : ∀ e ∈ i.program.entries, e.2.Closed) (arraySize : Int) :
    let t := (new arraySize).load out i.source
    t.answer = [] ∧ t.writes = [] ∧ t.interpreter = ⟨i.program, .empty arraySize⟩ := by
  intro t
  have loaded : t = _ := load_eq out (new arraySize) i.source
  rw [lines_source stored closed] at loaded
  obtain ⟨answer, writes, interpreter⟩ := loadLines_stored out stored (new arraySize) 1
  rw [new, foldl_insert_entries] at interpreter
  rw [loaded, Turn.answer_after, Turn.writes_after, Turn.interpreter_after]
  exact ⟨answer, writes, interpreter⟩

/-- What is listed does not depend on the variables. -/
theorem source_congr {i j : Interpreter} (h : i.program = j.program) : i.source = j.source := by
  unfold source list
  rw [h]
  split <;> simp [idle]

end Interpreter

/-! ## 5. The round trip -/

namespace Node

mutual

theorem equal_self : ∀ n : Node, n.equal n
  | hole => rfl
  | mk k v cs => by simp [equal, equalAll_self cs]

theorem equalAll_self : ∀ ns : List Node, equalAll ns ns
  | [] => rfl
  | n :: ns => by simp [equalAll, equal_self n, equalAll_self ns]

end

end Node

namespace Interpreter

/-- **Listing then loading gives back the program.**  After any history that left no string open in
a stored line, the listing loads into a fresh interpreter without warnings, output or variables.
The program then has the same numbers, under each number a line that agrees with the old one in
kinds, values and shape, and the same listing. -/
theorem load_source {i : Interpreter} (reached : Reachable i)
    (closed : ∀ e ∈ i.program.entries, e.2.Closed) (out : Stream) (arraySize : Int) :
    let loaded := (new arraySize).load out i.source
    loaded.answer = [] ∧ loaded.writes = []
      ∧ loaded.interpreter.store = (new arraySize).store
      ∧ loaded.interpreter.program.keys = i.program.keys
      ∧ (∀ n l, i.program.find? n = some l →
          ∃ l', loaded.interpreter.program.find? n = some l' ∧ l'.node.equal l.node)
      ∧ loaded.interpreter.source = i.source := by
  intro loaded
  obtain ⟨answer, writes, interpreter⟩ :=
    load_listing out (fromSource_of_reachable reached) closed arraySize
  have program : loaded.interpreter.program = i.program := by rw [interpreter]
  refine ⟨answer, writes, ?_, ?_, ?_, source_congr program⟩
  · rw [interpreter]
    rfl
  · rw [program]
  · intro n l hl
    rw [program]
    exact ⟨l, hl, Node.equal_self l.node⟩

/-- Lines out of order, with a `LET` to supply, an expression to fold and a blank in a string. -/
theorem entries_enter_two_lines :
    (enter {} (new 10) "20 \" \"\n10 X=(1)").interpreter.program.entries =
      [(10, ⟨[.leaf .lineNumber "10", .leaf .statementName "LET", .leaf .identifier "X",
        .leaf .symbol "=",
        .expression (.leaf .symbol "(") (.leaf .number "1") (.leaf .symbol ")")]⟩),
      (20, ⟨[.leaf .lineNumber "20", .leaf .string "\" \""]⟩)] := by
  cbv

theorem load_source_two_lines :
    let i := (enter {} (new 10) "20 \" \"\n10 X=(1)").interpreter
    let loaded := (new 7).load {} i.source
    loaded.answer = [] ∧ loaded.interpreter.program.keys = [10, 20]
      ∧ loaded.interpreter.source = i.source := by
  have reached : Reachable (enter {} (new 10) "20 \" \"\n10 X=(1)").interpreter :=
    .enter {} _ (.new 10)
  obtain ⟨answer, -, -, keys, -, source⟩ := load_source reached (by
    rw [entries_enter_two_lines]
    decide) {} 7
  refine ⟨answer, keys.trans ?_, source⟩
  rw [SortedMap.keys, entries_enter_two_lines]
  rfl

end Interpreter

end LineBasic
