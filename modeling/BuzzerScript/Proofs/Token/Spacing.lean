import BuzzerScript.Proofs.Token.Gaps
import BuzzerScript.Proofs.Token.Positions
import Mathlib.Algebra.Order.Ring.Nat

/-!
# Blanks in front of tokens

Tokens may touch, and they may as well stand apart: blanks in front of a token end no lexeme
that would have gone on, and let none go on that ended there.  So with blanks in front of any
of its tokens a text has the same tokens, further right on their lines.
-/

namespace BuzzerScript

/-- A text that starts at a position, with the gap of each position in front of the character
that stands there, and at the end the gap of the position behind the text. -/
def spaced (gap : Position → List Char) (position : Position) : List Char → List Char
  | [] => gap position
  | c :: tail => gap position ++ c :: spaced gap (position.after c) tail

/-- A text that starts behind the gap of a position: behind each character comes the gap of the
position after it. -/
def withGaps (gap : Position → List Char) (position : Position) : List Char → List Char
  | [] => []
  | c :: tail => c :: (gap (position.after c) ++ withGaps gap (position.after c) tail)

/-- Where a character stands once the gaps are in the text: those on its line in front of it,
its own included, have moved it to the right. -/
def Position.shifted (gap : Position → List Char) (p : Position) : Position :=
  ⟨p.line, p.column + ((List.range p.column).map fun k => (gap ⟨p.line, k + 1⟩).length).sum⟩

section

variable {gap : Position → List Char}

theorem spaced_eq (position : Position) (text : List Char) :
    spaced gap position text = gap position ++ withGaps gap position text := by
  induction text generalizing position with
  | nil => simp [spaced, withGaps]
  | cons c tail ih => rw [spaced, withGaps, ih]

theorem withGaps_append (position : Position) (text more : List Char) :
    withGaps gap position (text ++ more) =
      withGaps gap position text ++ withGaps gap (text.foldl Position.after position)
        more := by
  induction text generalizing position with
  | nil => rfl
  | cons c tail ih => simp [withGaps, ih]

/-! ## Positions -/

/-- Blanks stay on their line. -/
theorem Position.foldl_blanks {blanks : List Char} (h : ∀ c ∈ blanks, isBlank c = true)
    (p : Position) : blanks.foldl Position.after p = ⟨p.line, p.column + blanks.length⟩ := by
  induction blanks generalizing p with
  | nil => rfl
  | cons c blanks ih =>
    have hc : c ≠ '\n' := ne_newline_of_isBlank (h c List.mem_cons_self)
    rw [List.foldl_cons, ih fun d hd => h d (List.mem_cons_of_mem c hd), after, if_neg hc,
      List.length_cons, Nat.add_assoc, Nat.add_comm 1]

variable (hblank : ∀ p, ∀ c ∈ gap p, isBlank c = true)
include hblank

/-- The gap behind a character ends where the next character stands. -/
theorem Position.foldl_gap (p : Position) (c : Char) :
    (gap (p.after c)).foldl Position.after ((p.shifted gap).after c) =
      (p.after c).shifted gap := by
  rw [foldl_blanks (hblank _)]
  by_cases hc : c = '\n'
  · simp [after, shifted, hc]
  · simp only [after, shifted, hc, if_false, List.range_succ, List.map_append, List.sum_append,
      List.map_singleton, List.sum_singleton, Position.mk.injEq, true_and]
    omega

/-- The text up to a position ends, with its gaps, where that position is moved to. -/
theorem Position.foldl_withGaps (text : List Char) (p : Position) :
    (withGaps gap p text).foldl Position.after (p.shifted gap) =
      (text.foldl Position.after p).shifted gap := by
  induction text generalizing p with
  | nil => rfl
  | cons c tail ih =>
    rw [withGaps, List.foldl_cons, List.foldl_append, foldl_gap hblank, ih, List.foldl_cons]

/-! ## Reading -/

/-- With its gaps, a text without line ends is one without line ends. -/
theorem ne_newline_withGaps {text : List Char} (h : ∀ c ∈ text, c ≠ '\n') (p : Position) :
    ∀ c ∈ withGaps gap p text, c ≠ '\n' := by
  induction text generalizing p with
  | nil => simp [withGaps]
  | cons d tail ih =>
    intro c hc
    rw [withGaps, List.mem_cons, List.mem_append] at hc
    rcases hc with rfl | hc | hc
    · exact h c List.mem_cons_self
    · exact ne_newline_of_isBlank (hblank _ c hc)
    · exact ih (fun e he => h e (List.mem_cons_of_mem d he)) _ c hc

/-- Up to its first gap a text stays the same. -/
theorem exists_prefix_gap (p : Position) (text : List Char) :
    ∃ same after,
      gap p ++ withGaps gap p text = same ++ after ∧ same <+: text ∧ AtGap after := by
  induction text generalizing p with
  | nil =>
    refine ⟨[], gap p, by simp [withGaps], List.nil_prefix, ?_⟩
    exact fun c hc => .inl (hblank p c (List.mem_of_mem_head? hc))
  | cons c tail ih =>
    by_cases hgap : gap p = []
    · obtain ⟨same, after, htail, hprefix, hafter⟩ := ih (p.after c)
      refine ⟨c :: same, after, ?_, (List.prefix_cons_inj c).mpr hprefix, hafter⟩
      rw [hgap, List.nil_append, withGaps, htail, List.cons_append]
    · exact ⟨[], _, rfl, List.nil_prefix, atGap_append hgap (hblank p) _⟩

omit hblank in
/-- Blanks are passed. -/
theorem Reads.blanks_append {blanks text rest : List Char} (h : ∀ c ∈ blanks, isBlank c = true)
    {p : Position} {tokens : List LocatedToken}
    (hreads : Reads text rest (blanks.foldl Position.after p) tokens) :
    Reads (blanks ++ text) rest p tokens := by
  induction blanks generalizing p with
  | nil => exact hreads
  | cons c blanks ih =>
    have hc : Passes [c] ((blanks ++ text) ++ rest) none := .blank _ (h c List.mem_cons_self)
    have hblanks := ih (fun d hd => h d (List.mem_cons_of_mem c hd)) hreads
    have hskip : Reads ([c] ++ (blanks ++ text)) rest p tokens := .skip hc hblanks
    exact hskip

omit hblank in
/-- Without gaps inside it a text stays the same up to the gap behind it. -/
theorem withGaps_of_no_gap {text : List Char} (hne : text ≠ []) {p : Position}
    (h : ∀ q, p.Before q → q.Before (text.foldl Position.after p) → gap q = []) :
    withGaps gap p text = text ++ gap (text.foldl Position.after p) := by
  induction text generalizing p with
  | nil => exact absurd rfl hne
  | cons c tail ih =>
    cases tail with
    | nil => simp [withGaps]
    | cons d tail =>
      have hempty : gap (p.after c) = [] :=
        h _ (p.before_after c) (Position.before_foldl (by simp) (p.after c))
      have hrest := ih (p := p.after c) (by simp) fun q hq => h q ((p.before_after c).trans hq)
      rw [withGaps, hempty, hrest]
      rfl

omit hblank in
theorem head?_withGaps (p : Position) (text : List Char) :
    (withGaps gap p text).head? = text.head? := by
  cases text <;> rfl

/-- With its gaps a comment is a comment, and so is a blank a text of blanks. -/
theorem Passes.reads_withGaps {used more : List Char} (h : Passes used more none)
    {p : Position} {tokens : List LocatedToken}
    (hnext : Reads (withGaps gap (used.foldl Position.after p) more) []
      ((used.foldl Position.after p).shifted gap) tokens) :
    Reads (withGaps gap p (used ++ more)) [] (p.shifted gap) tokens := by
  rw [← Position.foldl_withGaps hblank] at hnext
  rw [withGaps_append]
  cases h with
  | @blank c more hc =>
    refine Reads.blanks_append ?_ hnext
    intro d hd
    rw [withGaps, withGaps, List.append_nil] at hd
    rcases List.mem_cons.mp hd with rfl | hd
    · exact hc
    · exact hblank _ d hd
  | @comment body more hline hends =>
    refine .skip (.comment ?_ ?_) hnext
    · have hcomment : ∀ c ∈ '#' :: body, c ≠ '\n' := by
        simpa using hline
      exact fun c hc => ne_newline_withGaps hblank hcomment p c (List.mem_cons_of_mem _ hc)
    · rw [List.append_nil, head?_withGaps]
      refine hends.imp ?_ id
      rintro rfl
      rfl

/-- In front of a gap a lexeme is as long as before. -/
theorem Passes.token_withGaps {used more : List Char} {token : Token}
    (h : Passes used more (some token)) (p : Position) :
    Passes used (gap p ++ withGaps gap p more) (some token) := by
  obtain ⟨same, after, heq, hprefix, hafter⟩ := exists_prefix_gap hblank p more
  rw [heq]
  cases h with
  | lexeme hlexeme hdenotes =>
    exact .lexeme ((hlexeme.truncate hprefix).append_gap hafter) hdenotes

omit hblank in
/-- No token stands inside a lexeme. -/
theorem Reads.no_gap_inside {used more : List Char} {position : Position} {token : Token}
    {tokens : List LocatedToken}
    (hnext : Reads more [] (used.foldl Position.after position) tokens)
    (hgap : ∀ p, position.Before p → gap p ≠ [] →
      ∃ t ∈ (⟨token, position⟩ : LocatedToken) :: tokens, t.position = p)
    (p : Position) (hfirst : position.Before p)
    (hlast : p.Before (used.foldl Position.after position)) : gap p = [] := by
  by_contra hne
  obtain ⟨t, ht, rfl⟩ := hgap p hfirst hne
  rcases List.mem_cons.mp ht with rfl | ht
  · exact hfirst.irrefl
  · rcases hnext.eq_or_before t ht with heq | hbefore
    · exact (heq ▸ hlast).irrefl
    · exact (hbefore.trans hlast).irrefl

/-- **Gaps in front of tokens.**  If a text is read to its end, it is read with gaps in front
of some of its tokens, as the same tokens where the gaps have moved them. -/
theorem Reads.withGaps {used rest : List Char} {position : Position}
    {tokens : List LocatedToken} (h : Reads used rest position tokens) (hrest : rest = [])
    (hgap : ∀ p, position.Before p → gap p ≠ [] → ∃ t ∈ tokens, t.position = p) :
    Reads (withGaps gap position used) [] (position.shifted gap)
      (tokens.map (LocatedToken.relocate (Position.shifted gap))) := by
  induction h with
  | done rest position => exact .done [] _
  | @skip used more rest position tokens hpasses hnext ih =>
    subst hrest
    rw [List.append_nil] at hpasses
    have hmore := ih rfl fun p hp =>
      hgap p ((Position.before_foldl hpasses.ne_nil position).trans hp)
    exact hpasses.reads_withGaps hblank hmore
  | @token used more rest position token tokens hpasses hnext ih =>
    subst hrest
    rw [List.append_nil] at hpasses
    have hbehind := Position.before_foldl hpasses.ne_nil position
    have hmore := ih rfl (by
      intro p hp hne
      obtain ⟨t, ht, rfl⟩ := hgap p (hbehind.trans hp) hne
      rcases List.mem_cons.mp ht with rfl | ht
      · exact absurd (hbehind.trans hp) (Position.Before.irrefl · )
      · exact ⟨t, ht, rfl⟩)
    have hused := withGaps_of_no_gap hpasses.ne_nil (hnext.no_gap_inside hgap)
    have hposition := Position.foldl_withGaps hblank used position
    rw [hused, List.foldl_append] at hposition
    rw [← hposition] at hmore
    rw [withGaps_append, hused, List.append_assoc]
    refine .token ?_ (.blanks_append (hblank _) hmore)
    rw [List.append_nil]
    exact hpasses.token_withGaps hblank _

/-- With gaps in front of some of its tokens a text has the same tokens, where the
gaps have moved them. -/
theorem tokenize_withGaps {source : String} {tokens : List LocatedToken}
    (h : tokenize source = .ok tokens)
    (hgap : ∀ p, gap p ≠ [] → ∃ t ∈ tokens, t.position = p) :
    tokenize (String.ofList (spaced gap ⟨1, 1⟩ source.toList)) =
      .ok (tokens.map (LocatedToken.relocate (Position.shifted gap))) := by
  obtain ⟨used, rest, read, htext, hreads, ⟨rfl, hsource⟩ | ⟨fault, -, hsource⟩⟩ :=
    exists_reads_tokenize source
  · obtain rfl := Except.ok.inj (hsource.symm.trans h)
    rw [List.append_nil] at htext
    have hmore := hreads.withGaps hblank rfl fun p _ => hgap p
    have hstart : (gap ⟨1, 1⟩).foldl Position.after ⟨1, 1⟩ = Position.shifted gap ⟨1, 1⟩ := by
      rw [Position.foldl_blanks (hblank _)]
      simp [Position.shifted]
    rw [← hstart] at hmore
    rw [htext, spaced_eq]
    exact (Reads.blanks_append (hblank _) hmore).tokenize_eq
  · rw [hsource] at h
    cases h

end

end BuzzerScript
