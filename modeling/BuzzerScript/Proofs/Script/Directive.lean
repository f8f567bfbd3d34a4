import BuzzerScript.Proofs.Script.Joined
import BuzzerScript.Proofs.Token.Blanks

/-!
# A directive on top of a script

A directive may be written on top of any text.  It finds no fault and causes none, and its
setting holds where the text below has none of its own: directives that follow it come later,
and a later value takes the place of an earlier one.
-/

namespace BuzzerScript

/-- The first of several settings holds where the others have none. -/
theorem Settings.lastAccepted_cons (pair : String × SettingValue)
    (pairs : List (String × SettingValue)) :
    lastAccepted (pair :: pairs) =
      (lastAccepted pairs).orElse (({} : Settings).apply pair.1 pair.2) := by
  rw [← orElse_empty (lastAccepted (pair :: pairs)), ← foldl_apply, List.foldl_cons,
    foldl_apply]

namespace Script

/-! ## Lines -/

theorem pieces_line {line : Line} (h : ∀ t ∈ line, t.token ≠ .newline) :
    pieces line = [line] := by
  induction line with
  | nil => rfl
  | cons t rest ih =>
    have hrest := ih fun s hs => h s (List.mem_cons_of_mem _ hs)
    rw [pieces, if_neg (h t List.mem_cons_self), hrest]

/-- A line and the lines below it. -/
theorem lines_line {line : Line} (hne : line ≠ []) (h : ∀ t ∈ line, t.token ≠ .newline)
    {lineEnd : LocatedToken} (hend : lineEnd.token = .newline) (lower : List LocatedToken) :
    lines (line ++ lineEnd :: lower) = line :: lines lower := by
  have hline : lines line = [line] := by
    rw [lines, pieces_line h, List.filter_cons_of_pos (by simpa using hne), List.filter_nil]
  rw [lines_append_newline line hend, hline, List.singleton_append]

section Directive

variable {line : Line} (hkind : lineKind line = .directive)
include hkind

/-! ## Faults -/

theorem isContent_directive : isContent line = false := by
  simp [isContent, hkind]

theorem blocks_directive (lines : List Line) : blocks (line :: lines) = blocks lines := by
  simp [blocks, blocksFrom, hkind]

theorem silentTrack?_directive (lines : List Line) :
    silentTrack? (line :: lines) = silentTrack? lines := by
  have hcontent := isContent_directive hkind
  rw [silentTrack?, silentTrack?, blocks_directive hkind,
    List.filter_cons_of_neg (by simp [hcontent])]

theorem lineFault?_directive (before : List Line) (other : Line) :
    lineFault? (line :: before) other = lineFault? before other := by
  have hcontent := isContent_directive hkind
  rw [lineFault?, lineFault?, silentTrack?_directive hkind, List.any_cons, hcontent,
    Bool.false_or]

/-- Below a directive there are the same faults as without it. -/
theorem firstFaultFrom?_directive (before rest : List Line) :
    firstFaultFrom? (line :: before) rest = firstFaultFrom? before rest := by
  induction rest generalizing before with
  | nil => exact silentTrack?_directive hkind before
  | cons other rest ih =>
    rw [firstFaultFrom?, firstFaultFrom?, lineFault?_directive hkind, List.cons_append, ih]

theorem firstFault?_directive (lines : List Line) :
    firstFault? (line :: lines) = firstFault? lines := by
  have hline : lineFault? [] line = none := by simp [lineFault?, hkind]
  rw [firstFault?, firstFaultFrom?, hline, Option.none_or, List.nil_append,
    firstFaultFrom?_directive hkind, firstFault?]

/-! ## Scripts -/

theorem ofLines_directive {pair : String × SettingValue}
    (hpair : directivePair? line = some pair) (lines : List Line) :
    ofLines (line :: lines) =
      { ofLines lines with
        globals := (ofLines lines).globals.orElse (({} : Settings).apply pair.1 pair.2) } := by
  have hglobals : globalsOf (line :: lines) =
      (globalsOf lines).orElse (({} : Settings).apply pair.1 pair.2) := by
    rw [globalsOf, List.filter_cons_of_pos (by simp [hkind]), List.filterMap_cons_some hpair,
      Settings.lastAccepted_cons, globalsOf]
  have htracks : tracksFrom 0 (blocks (line :: lines)) = tracksFrom 0 (blocks lines) := by
    rw [blocks_directive hkind]
  rw [ofLines, htracks]
  exact congrArg (fun globals => Script.mk globals _) hglobals

/-- Tokens with a directive on top. -/
theorem ofTokens_directive {pair : String × SettingValue}
    (hpair : directivePair? line = some pair) {above tokens : List LocatedToken}
    (habove : lines above = line :: lines tokens) :
    ofTokens above = (ofTokens tokens).map fun script =>
      { script with
        globals := script.globals.orElse (({} : Settings).apply pair.1 pair.2) } := by
  rw [ofTokens_eq, ofTokens_eq, habove, firstFault?_directive hkind,
    ofLines_directive hkind hpair]
  cases firstFault? (lines tokens) <;> rfl

end Directive

/-- The tokens of a directive are those of a line that is one. -/
theorem directive_of_tokens {line : Line} {key : String} {token : Token} {value : SettingValue}
    (hline : line.map LocatedToken.token = [.identifier key, .equal, token])
    (hvalue : settingValue? token = some value) :
    lineKind line = .directive ∧ directivePair? line = some (Text.lowerCase key, value) ∧
      line ≠ [] ∧ ∀ t ∈ line, t.token ≠ .newline := by
  refine ⟨by rw [lineKind, hline], by simp [directivePair?, hline, hvalue], ?_, ?_⟩
  · rintro rfl
    cases hline
  · intro t ht hnewline
    have hmem : Token.newline ∈ line.map LocatedToken.token :=
      List.mem_map.mpr ⟨t, ht, hnewline⟩
    rw [hline] at hmem
    cases token <;> simp_all [settingValue?]

end Script

/-! ## Texts -/

/-- A directive as it is written: a key that is no note, an equal sign and a value, with blanks
between them. -/
theorem cuts_directive {key text : String} {kind : LexemeClass} {token : Token}
    (hkey : IsIdentifier key.toList) (hword : ¬ LexemeClass.note.Spells key.toList)
    (hspells : kind.Spells text.toList)
    (hnote : kind = .identifier → ¬ LexemeClass.note.Spells text.toList)
    (hdenotes : kind.Denotes text.toList token) :
    Cuts (key ++ " = " ++ text).toList [.identifier key, .equal, token] := by
  have hchars :
      (key ++ " = " ++ text).toList = key.toList ++ ' ' :: '=' :: ' ' :: text.toList := by
    simp
  have hblank : ∀ (rest : List Char) (c : Char), (' ' :: rest).head? = some c →
      isBlank c = true := by
    intro rest c hc
    obtain rfl := Option.some.inj hc
    rfl
  have hvalue : Cuts text.toList [token] := by
    have hend : IsLexeme kind text.toList [] := isLexeme_of_blank hspells hnote (by simp)
    simpa using Cuts.lexeme hend hdenotes .done
  have hequal : Cuts ('=' :: ' ' :: text.toList) [.equal, token] := by
    have hsign : IsLexeme .equal ['='] (' ' :: text.toList) :=
      isLexeme_of_blank rfl (fun h => by cases h) (hblank text.toList)
    exact .lexeme hsign (.equal _) (.blank rfl hvalue)
  have hlexeme : IsLexeme .identifier key.toList (' ' :: '=' :: ' ' :: text.toList) :=
    isLexeme_of_blank hkey (fun _ => hword) (hblank _)
  have hdenoted : LexemeClass.Denotes .identifier key.toList (.identifier key) := by
    simpa using LexemeClass.Denotes.identifier key.toList
  rw [hchars]
  exact .lexeme hlexeme hdenoted (.blank rfl hequal)

namespace Script

/-- What a text makes with a directive on top: the same script, with the setting of the
directive where it has none, or the same error one line further down. -/
theorem ofString_directive {directive key : String} {token : Token} {value : SettingValue}
    (hcuts : Cuts directive.toList [.identifier key, .equal, token])
    (hvalue : settingValue? token = some value) (source : String) :
    ofString (directive ++ "\n" ++ source) =
      ((ofString source).map fun script =>
        { script with
          globals := script.globals.orElse
            (({} : Settings).apply (Text.lowerCase key) value) }).mapError
        (CompileError.relocate (Position.below 1)) := by
  obtain ⟨line, hline, htoken⟩ := Cursor.exists_tokens_of_cuts hcuts 0 ⟨1, 1⟩
  obtain ⟨hkind, hpair, hne, hnewline⟩ := directive_of_tokens htoken hvalue
  have hcount : directive.toList.count '\n' = 0 := by
    rw [hcuts.count_newline, ← htoken, List.count_eq_zero]
    intro hmem
    obtain ⟨t, ht, hend⟩ := List.mem_map.mp hmem
    exact hnewline t ht hend
  have hdirective : tokenize directive = .ok line := hline
  cases htokens : tokenize source with
  | error e =>
    rw [ofString, ofString, tokenize_joined, hdirective, htokens, hcount]
    rfl
  | ok tokens =>
    have hbelow := ofTokens_relocate (Position.below 1) tokens
    rw [ofString_joined_eq hdirective htokens, hcount,
      ofTokens_directive hkind hpair (lines_line hne hnewline rfl _), hbelow, ofString,
      htokens]
    change _ = ((ofTokens tokens).map _).mapError _
    cases ofTokens tokens <;> rfl

end Script

end BuzzerScript
