import Mathlib.Data.List.Forall2
import FormScaffold.Proofs.Code.Lines
import FormScaffold.Proofs.Form.Valid
import FormScaffold.Proofs.Text.Quoted

/-!
# Tokens of a script

Generated statements are read here as the tokens of the language they are written in: key words,
names, texts and single marks.  The reader goes through the characters once, and what a text adds
to the tokens does not depend on what was read before it (`Lexes`), so that the tokens of a line are
put together from those of its pieces, and the tokens of a tree of source from those of its lines.
-/

namespace FormScaffold.Script

/-! ## Tokens -/

/-- The reserved words of the statements that are read. -/
inductive Keyword where
  | const | if_ | throw_ | try_ | catch_ | finally_ | new | await | instanceof | true_ | false_
deriving DecidableEq, Repr

namespace Keyword

def spelling : Keyword → String
  | const => "const"
  | if_ => "if"
  | throw_ => "throw"
  | try_ => "try"
  | catch_ => "catch"
  | finally_ => "finally"
  | new => "new"
  | await => "await"
  | instanceof => "instanceof"
  | true_ => "true"
  | false_ => "false"

def all : List Keyword :=
  [const, if_, throw_, try_, catch_, finally_, new, await, instanceof, true_, false_]

end Keyword

/-- A token.  The operators of two equal marks, `||` and `&&`, are tokens of that mark. -/
inductive Token where
  | keyword (word : Keyword)
  | name (word : String)
  | text (value : String)
  | mark (c : Char)
deriving DecidableEq, Repr

/-- A word is reserved or a name. -/
def Token.ofWord (word : List Char) : Token :=
  match Keyword.all.find? fun k => k.spelling.toList == word with
  | some k => keyword k
  | none => name (String.ofList word)

/-- The marks that are a token each. -/
def marks : List Char := ['\x7b', '\x7d', '[', ']', '(', ')', ',', ';', ':', '.', '=', '!', '?']

/-! ## The reader -/

/-- Where the reader is: behind the characters of a word, behind the first of two equal marks,
inside a literal, or behind a backslash in it.  The last character comes first. -/
inductive Mode where
  | plain (word : List Char)
  | pair (c : Char)
  | text (chars : List Char)
  | escape (chars : List Char)
deriving DecidableEq, Repr

/-- The reader with the tokens it has found, the last one first. -/
structure Lexer where
  mode : Mode
  tokens : List Token
deriving DecidableEq, Repr

/-- The tokens once a word has ended; a word must be an identifier. -/
def endWord? : List Char → List Token → Option (List Token)
  | [], tokens => some tokens
  | word, tokens =>
    if isIdentifier (String.ofList word.reverse) then some (.ofWord word.reverse :: tokens)
    else none

/-- Behind a token: white space separates, a double quote begins a literal. -/
def beginToken? (tokens : List Token) (c : Char) : Option Lexer :=
  if c = ' ' ∨ c = '\n' then some ⟨.plain [], tokens⟩
  else if c = '\x22' then some ⟨.text [], tokens⟩
  else if c = '|' ∨ c = '&' then some ⟨.pair c, tokens⟩
  else if marks.contains c then some ⟨.plain [], .mark c :: tokens⟩
  else none

def Lexer.step : Lexer → Char → Option Lexer
  | ⟨.plain word, tokens⟩, c =>
    if continuesIdentifier c then some ⟨.plain (c :: word), tokens⟩
    else (endWord? word tokens).bind (beginToken? · c)
  | ⟨.pair d, tokens⟩, c => if c = d then some ⟨.plain [], .mark c :: tokens⟩ else none
  | ⟨.text chars, tokens⟩, c =>
    if c = '\x22' then some ⟨.plain [], .text (String.ofList chars.reverse) :: tokens⟩
    else if c = '\\' then some ⟨.escape chars, tokens⟩
    else if c = '\n' ∨ c = '\r' then none
    else some ⟨.text (c :: chars), tokens⟩
  | ⟨.escape chars, tokens⟩, c =>
    (Quoted.escapeMeaning? c).map fun d => ⟨.text (d :: chars), tokens⟩

def Lexer.run : Lexer → List Char → Option Lexer
  | lexer, [] => some lexer
  | lexer, c :: cs => (lexer.step c).bind fun next => next.run cs

/-- The tokens of a text that ends outside of its literals. -/
def tokens? (s : String) : Option (List Token) :=
  match Lexer.run ⟨.plain [], []⟩ s.toList with
  | some ⟨.plain word, tokens⟩ => (endWord? word tokens).map List.reverse
  | _ => none

theorem Lexer.run_append (lexer : Lexer) (cs ds : List Char) :
    lexer.run (cs ++ ds) = (lexer.run cs).bind fun next => next.run ds := by
  induction cs generalizing lexer with
  | nil => rfl
  | cons c cs ih =>
    rw [List.cons_append, Lexer.run, Lexer.run, Option.bind_assoc]
    exact congrArg _ (funext fun next => ih next)

/-! ## Tokens of pieces -/

/-- Whatever has been read before, a text adds these tokens and ends behind the last of them. -/
def Lexes (s : String) (ts : List Token) : Prop :=
  ∀ before, Lexer.run ⟨.plain [], before⟩ s.toList = some ⟨.plain [], ts.reverse ++ before⟩

theorem Lexes.tokens? {s : String} {ts : List Token} (h : Lexes s ts) : tokens? s = some ts := by
  rw [Script.tokens?, h []]
  simp [endWord?]

theorem lexes_empty : Lexes "" [] := fun _ => rfl

theorem Lexes.append {s t : String} {ts us : List Token} (hs : Lexes s ts) (ht : Lexes t us) :
    Lexes (s ++ t) (ts ++ us) := by
  intro before
  rw [String.toList_append, Lexer.run_append, hs before, Option.bind_some, ht, List.reverse_append,
    List.append_assoc]

theorem run_text_escape (chars : List Char) (before : List Token) (c : Char) :
    Lexer.run ⟨.text chars, before⟩ (Quoted.escape c) = some ⟨.text (c :: chars), before⟩ := by
  unfold Quoted.escape
  split
  case h_6 hquote hslash hfeed hreturn _ =>
    rw [Lexer.run, Lexer.step, if_neg hquote, if_neg hslash, if_neg (not_or.mpr ⟨hfeed, hreturn⟩)]
    rfl
  all_goals rfl

theorem run_text_flatMap_escape (chars : List Char) (before : List Token) (cs : List Char) :
    Lexer.run ⟨.text chars, before⟩ (cs.flatMap Quoted.escape) =
      some ⟨.text (cs.reverse ++ chars), before⟩ := by
  induction cs generalizing chars with
  | nil => rfl
  | cons c cs ih =>
    rw [List.flatMap_cons, Lexer.run_append, run_text_escape, Option.bind_some, ih,
      List.reverse_cons, List.append_assoc, List.singleton_append]

/-- A literal is one token, whatever its text. -/
theorem lexes_literal (s : String) : Lexes (Quoted.literal s) [.text s] := by
  intro before
  rw [Quoted.literal, String.toList_ofList, Quoted.literalChars, Lexer.run]
  calc Lexer.run ⟨.text [], before⟩ (s.toList.flatMap Quoted.escape ++ ['\x22'])
    _ = Lexer.run ⟨.text s.toList.reverse, before⟩ ['\x22'] := by
      rw [Lexer.run_append, run_text_flatMap_escape, Option.bind_some, List.append_nil]
    _ = some ⟨.plain [], .text (String.ofList s.toList.reverse.reverse) :: before⟩ := rfl
    _ = some ⟨.plain [], .text s :: before⟩ := by rw [List.reverse_reverse, String.ofList_toList]

theorem Lexes.around_literal {opening closing : String} {ts us : List Token}
    (hopening : Lexes opening ts) (hclosing : Lexes closing us) (s : String) :
    Lexes (opening ++ Quoted.literal s ++ closing) (ts ++ .text s :: us) := by
  rw [String.append_assoc]
  exact hopening.append ((lexes_literal s).append hclosing)

theorem run_plain {cs : List Char} (h : ∀ c ∈ cs, continuesIdentifier c = true)
    (word : List Char) (before : List Token) :
    Lexer.run ⟨.plain word, before⟩ cs = some ⟨.plain (cs.reverse ++ word), before⟩ := by
  induction cs generalizing word with
  | nil => rfl
  | cons c cs ih =>
    rw [Lexer.run, Lexer.step, if_pos (h c List.mem_cons_self), Option.bind_some,
      ih fun d hd => h d (List.mem_cons_of_mem c hd), List.reverse_cons, List.append_assoc,
      List.singleton_append]

/-- A name that is not reserved is one token when a mark or white space ends it. -/
theorem Lexes.name_append {word t : String} {ts : List Token} (hword : isIdentifier word = true)
    (hname : Token.ofWord word.toList = .name word) {c : Char} {cs : List Char}
    (ht : t.toList = c :: cs) (hc : continuesIdentifier c = false) (h : Lexes t ts) :
    Lexes (word ++ t) (.name word :: ts) := by
  intro before
  have hend : endWord? word.toList.reverse before = some (.name word :: before) := by
    cases hrev : word.toList.reverse with
    | nil => exact absurd (by simpa using hrev) (ne_empty_of_isIdentifier hword)
    | cons d ds =>
      rw [endWord?, ← hrev, List.reverse_reverse, String.ofList_toList, if_pos hword, hname]
      exact fun hnil => absurd hnil (List.cons_ne_nil d ds)
  have hstep : Lexer.step ⟨.plain word.toList.reverse, before⟩ c =
      Lexer.step ⟨.plain [], .name word :: before⟩ c := by
    rw [Lexer.step, Lexer.step, hend]
    simp only [hc, Bool.false_eq_true, if_false]
    rfl
  calc Lexer.run ⟨.plain [], before⟩ (word ++ t).toList
    _ = Lexer.run ⟨.plain word.toList.reverse, before⟩ t.toList := by
      rw [String.toList_append, Lexer.run_append, run_plain (continuesIdentifier_of_mem hword),
        Option.bind_some, List.append_nil]
    _ = Lexer.run ⟨.plain [], .name word :: before⟩ t.toList := by
      rw [ht, Lexer.run, hstep, Lexer.run]
    _ = some ⟨.plain [], (Token.name word :: ts).reverse ++ before⟩ := by
      rw [h, List.reverse_cons, List.append_assoc, List.singleton_append]

/-- A word with another last character than every reserved word is a name. -/
theorem Token.ofWord_eq_name {word : String}
    (h : ∀ k ∈ Keyword.all, k.spelling.toList.getLast? ≠ word.toList.getLast?) :
    ofWord word.toList = name word := by
  have hnone : Keyword.all.find? (fun k => k.spelling.toList == word.toList) = none := by
    rw [List.find?_eq_none]
    intro k hk heq
    exact h k hk (congrArg List.getLast? (eq_of_beq heq))
  rw [ofWord, hnone, String.ofList_toList]

/-! ## Tokens of lines -/

/-- The tokens of several lines, each read by itself. -/
inductive LexesAll : List String → List Token → Prop
  | nil : LexesAll [] []
  | cons {l : String} {ls : List String} {ts us : List Token} :
    Lexes l ts → LexesAll ls us → LexesAll (l :: ls) (ts ++ us)

namespace LexesAll

theorem of_forall₂ {ls : List String} {tss : List (List Token)}
    (h : List.Forall₂ Lexes ls tss) : LexesAll ls tss.flatten := by
  induction h with
  | nil => exact .nil
  | cons hl _ ih => exact .cons hl ih

/-- Empty lines have no tokens. -/
theorem filter_iff {ls : List String} {ts : List Token} :
    LexesAll (ls.filter (· ≠ "")) ts ↔ LexesAll ls ts := by
  induction ls generalizing ts with
  | nil => exact Iff.rfl
  | cons l ls ih =>
    by_cases hl : l = ""
    · subst hl
      rw [List.filter_cons_of_neg (by simp), ih]
      constructor
      · intro h
        exact .cons lexes_empty h
      · rintro (_ | ⟨hempty, h⟩)
        rw [Option.some.inj (hempty.tokens?.symm.trans lexes_empty.tokens?)]
        exact h
    · rw [List.filter_cons_of_pos (by simpa using hl)]
      constructor
      · rintro (_ | ⟨hl, h⟩)
        exact .cons hl (ih.mp h)
      · rintro (_ | ⟨hl, h⟩)
        exact .cons hl (ih.mpr h)

/-- Lines that are moved in have the same tokens. -/
theorem indented {ls : List (Nat × String)} {ts : List Token}
    (h : LexesAll (ls.map (·.2)) ts) : LexesAll (ls.map fun l => Code.indented l.1 l.2) ts := by
  have hspaces (n : Nat) (before : List Token) :
      Lexer.run ⟨.plain [], before⟩ (List.replicate n ' ') = some ⟨.plain [], before⟩ := by
    induction n with
    | zero => rfl
    | succ n ih => exact ih
  induction ls generalizing ts with
  | nil => exact h
  | cons l ls ih =>
    rcases h with _ | ⟨hl, h⟩
    refine .cons (fun before => ?_) (ih h)
    rw [Code.toList_indented, Lexer.run_append, hspaces, Option.bind_some, hl]

/-- Lines that are joined have their tokens one after the other. -/
theorem intercalate {ls : List String} {ts : List Token} (h : LexesAll ls ts) :
    Lexes ("\n".intercalate ls ++ "\n") ts := by
  have hfeed : Lexes "\n" [] := fun _ => rfl
  induction h with
  | nil => exact hfeed
  | @cons l ls ts us hl h ih =>
    cases h with
    | nil => exact hl.append hfeed
    | @cons m ms =>
      have hjoin : "\n".intercalate (l :: m :: ms) ++ "\n" =
          l ++ ("\n" ++ ("\n".intercalate (m :: ms) ++ "\n")) := by
        apply String.toList_inj.mp
        simp [String.toList_intercalate, List.intercalate]
      rw [hjoin]
      exact hl.append (hfeed.append ih)

end LexesAll

/-- The tokens of a tree of source are those of its lines. -/
theorem lexes_render {code : Code} {tss : List (List Token)}
    (h : List.Forall₂ Lexes code.texts tss) : Lexes code.render tss.flatten := by
  apply LexesAll.intercalate
  rw [← LexesAll.filter_iff, Code.filter_toLines, LexesAll.filter_iff]
  exact LexesAll.indented (.of_forall₂ h)

end FormScaffold.Script
