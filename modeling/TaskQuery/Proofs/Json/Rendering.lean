import Mathlib.Data.List.Chain
import TaskQuery.Json.Reading
import TaskQuery.Proofs.Text.Letter

set_option autoImplicit false

namespace TaskQuery

def Scalar.Proper : Scalar → Prop
  | .number literal => ∃ n, literal = Text.ofNat n
  | .string marks => ∃ cs, marks = .ofText cs
  | .null | .bool _ => True

def Token.Proper : Token → Prop
  | .scalar value => value.Proper
  | _ => True

def Token.isNumber : Token → Bool
  | .scalar (.number _) => true
  | _ => false

def Token.Apart (a b : Token) : Prop :=
  a.isNumber = false ∨ b.isNumber = false

def NumberPart.EndsAt (part : NumberPart) (rest : Text) : Prop :=
  ∀ c ∈ rest.head?, part.next? c = none

theorem Text.ofNat_opens (n : Nat) (positive : 0 < n) : ∃ c rest, ofNat n = c :: rest ∧ c ≠ '0' := by
  have digit : ∀ d < 10, 0 < d → d.digitChar ≠ '0' := by decide
  induction n using Nat.strongRecOn with
  | ind n ih =>
    rw [ofNat, Nat.toDigits_eq_if (by decide)]
    split
    next small => exact ⟨n.digitChar, [], rfl, digit n small positive⟩
    next large =>
      obtain ⟨c, rest, shape, nonzero⟩ := ih (n / 10) (by omega) (by omega)
      rw [ofNat] at shape
      exact ⟨c, rest ++ [(n % 10).digitChar], by rw [shape, List.cons_append], nonzero⟩

namespace Scan

variable (before : List Token) (rest : Text)

theorem tokensBehind?_step (scan next : Scan) (c : Char) (tokens : List Token)
    (step : scan.step c = some (tokens, next)) :
    tokensBehind? before scan (c :: rest) = tokensBehind? (tokens.reverse ++ before) next rest := by
  simp [tokensBehind?, step]

theorem unescape?_of_mem : ∀ entry ∈ escapes,
    entry.2 ≠ 'u' ∧ unescape? entry.2 = some entry.1 := by
  decide

theorem hexDigits_control : ∀ code < 0x20,
    hexDigits code = ['0', '0', (code / 16).digitChar, (code % 16).digitChar] ∧
      hexDigit? (code / 16).digitChar = some (code / 16) ∧
      hexDigit? (code % 16).digitChar = some (code % 16) := by
  decide

theorem tokensBehind?_ofChar (read : JsonString) (c : Char) :
    tokensBehind? before (string read) ((Mark.ofChar c).text ++ rest) =
      tokensBehind? before (string (.ofChar c :: read)) rest := by
  cases escaped : escapes.lookup c with
  | some letter =>
    obtain ⟨front, back, table, _⟩ := List.lookup_eq_some_iff.mp escaped
    obtain ⟨notUnit, letters⟩ := unescape?_of_mem (c, letter) (by simp [table])
    have char : Mark.ofChar c = .char c := by simp [Mark.ofChar, escaped]
    simp [char, Mark.text, escaped, tokensBehind?, step, notUnit, letters]
  | none =>
    by_cases control : c.toNat < 0x20
    · obtain ⟨digits, high, low⟩ := hexDigits_control c.toNat control
      have unit : Mark.ofChar c = .unit c.toNat := by simp [Mark.ofChar, control, escaped]
      have code : 16 * (c.toNat / 16) + c.toNat % 16 = c.toNat := Nat.div_add_mod _ _
      have zero : hexDigit? '0' = some 0 := by decide
      simp [unit, Mark.text, digits, tokensBehind?, step, zero, high, low, code]
    · have char : Mark.ofChar c = .char c := by simp [Mark.ofChar, control]
      have quote : c ≠ '"' := by
        rintro rfl
        cases escaped
      have backslash : c ≠ '\\' := by
        rintro rfl
        cases escaped
      simp [char, Mark.text, escaped, tokensBehind?, step, quote, backslash, control]

theorem tokensBehind?_ofText (read : JsonString) (cs : Text) :
    tokensBehind? before (string read)
        ((JsonString.ofText cs).flatMap Mark.text ++ '"' :: rest) =
      tokensBehind? (.scalar (.string (read.reverse ++ .ofText cs)) :: before) between rest := by
  induction cs generalizing read with
  | nil => simp [JsonString.ofText, tokensBehind?, step]
  | cons c cs ih =>
    have behind := ih (.ofChar c :: read)
    simp only [JsonString.ofText] at behind ⊢
    rw [List.map_cons, List.flatMap_cons, List.append_assoc, tokensBehind?_ofChar, behind]
    simp

theorem tokensBehind?_digits (read digits : Text) (all : ∀ c ∈ digits, c.isDigit = true) :
    tokensBehind? before (number .whole read) (digits ++ rest) =
      tokensBehind? before (number .whole (digits.reverse ++ read)) rest := by
  induction digits generalizing read with
  | nil => rfl
  | cons c digits ih =>
    rw [List.forall_mem_cons] at all
    simp [tokensBehind?, step, NumberPart.next?, all.1, ih (c :: read) all.2]

theorem tokensBehind?_number (part : NumberPart) (read : Text) (mayEnd : part.mayEnd = true)
    (ends : part.EndsAt rest) :
    tokensBehind? before (number part read) rest =
      tokensBehind? (.scalar (.number read.reverse) :: before) between rest := by
  cases rest with
  | nil => simp [tokensBehind?, finish?, mayEnd]
  | cons c rest =>
    have stop : part.next? c = none := ends c rfl
    simp only [tokensBehind?, step, stop, mayEnd, if_true]
    cases start c <;> simp

theorem start_digit (c : Char) (digit : c.isDigit = true) :
    start c = some ([], number (if c = '0' then .zero else .whole) [c]) := by
  have ascii : isAscii c = true := by
    simp only [Char.isDigit, Bool.and_eq_true, decide_eq_true_eq] at digit
    have small : c.toNat ≤ 57 := digit.2
    simp only [isAscii, decide_eq_true_eq]
    omega
  exact of_ascii_codes (fun c => c.isDigit = true →
    start c = some ([], number (if c = '0' then .zero else .whole) [c])) (by decide) c ascii digit

theorem tokensBehind?_ofNat (n : Nat) (ends : NumberPart.whole.EndsAt rest) :
    tokensBehind? before between (Text.ofNat n ++ rest) =
      tokensBehind? (.scalar (.number (Text.ofNat n)) :: before) between rest := by
  rcases Nat.eq_zero_or_pos n with rfl | positive
  · have zero : NumberPart.zero.EndsAt rest := by
      intro c first
      have stop := ends c first
      simp only [NumberPart.next?] at stop ⊢
      split at stop
      next => cases stop
      next => exact stop
    exact tokensBehind?_number before rest .zero ['0'] rfl zero
  · obtain ⟨c, digits, shape, nonzero⟩ := Text.ofNat_opens n positive
    have all : ∀ c ∈ Text.ofNat n, c.isDigit = true := fun c member =>
      Nat.isDigit_of_mem_toDigits (by decide) (by decide) member
    rw [shape, List.forall_mem_cons] at all
    have first : Scan.between.step c = some ([], number .whole [c]) := by
      rw [step, start_digit c all.1, if_neg nonzero]
    rw [shape, List.cons_append, tokensBehind?_step before _ _ _ c [] first]
    simp only [List.reverse_nil, List.nil_append]
    rw [tokensBehind?_digits before rest [c] digits all.2,
      tokensBehind?_number before rest .whole _ rfl ends]
    simp

theorem tokensBehind?_token (token : Token) (proper : token.Proper)
    (ends : token.isNumber = true → NumberPart.whole.EndsAt rest) :
    tokensBehind? before between (token.text ++ rest) =
      tokensBehind? (token :: before) between rest := by
  cases token with
  | scalar value =>
    cases value with
    | null => rfl
    | bool value => cases value <;> rfl
    | number literal =>
      obtain ⟨n, rfl⟩ := proper
      exact tokensBehind?_ofNat before rest n (ends rfl)
    | string marks =>
      obtain ⟨cs, rfl⟩ := proper
      have inside := tokensBehind?_ofText before rest [] cs
      simpa [Token.text, Scalar.text, tokensBehind?, step, start] using inside
  | openArray | closeArray | openObject | closeObject | comma | colon => rfl

end Scan

namespace Token

theorem text_endsNumber (token : Token) (rest : Text) (other : token.isNumber = false) :
    NumberPart.whole.EndsAt (token.text ++ rest) := by
  have opens : ∃ c cs, token.text = c :: cs ∧ NumberPart.whole.next? c = none := by
    cases token with
    | scalar value =>
      cases value with
      | null => exact ⟨_, _, rfl, by decide⟩
      | bool value => cases value <;> exact ⟨_, _, rfl, by decide⟩
      | number literal => cases other
      | string marks => exact ⟨_, _, rfl, by decide⟩
    | openArray | closeArray | openObject | closeObject | comma | colon =>
      exact ⟨_, _, rfl, by decide⟩
  obtain ⟨c, cs, shape, stop⟩ := opens
  intro d first
  rw [shape] at first
  cases first
  exact stop

theorem tokensBehind?_texts (before tokens : List Token) (proper : ∀ token ∈ tokens, token.Proper)
    (apart : tokens.IsChain Apart) :
    Scan.tokensBehind? before .between (tokens.flatMap text) = some (before.reverse ++ tokens) := by
  induction tokens generalizing before with
  | nil => rfl
  | cons token tokens ih =>
    rw [List.forall_mem_cons] at proper
    rw [List.isChain_cons] at apart
    have ends : token.isNumber = true → NumberPart.whole.EndsAt (tokens.flatMap text) := by
      intro number
      cases tokens with
      | nil => simp [NumberPart.EndsAt]
      | cons next tokens =>
        rcases apart.1 next rfl with other | other
        · rw [number] at other
          cases other
        · exact next.text_endsNumber (tokens.flatMap text) other
    rw [List.flatMap_cons, Scan.tokensBehind?_token before _ token proper.1 ends,
      ih (token :: before) proper.2 apart.2]
    simp

theorem scan?_texts (tokens : List Token) (proper : ∀ token ∈ tokens, token.Proper)
    (apart : tokens.IsChain Apart) : scan? (tokens.flatMap text) = some tokens :=
  tokensBehind?_texts [] tokens proper apart

theorem apart_cons (mark : Token) (tokens : List Token) (other : mark.isNumber = false)
    (apart : tokens.IsChain Apart) : (mark :: tokens).IsChain Apart :=
  List.isChain_cons.mpr ⟨fun _ _ => .inl other, apart⟩

theorem apart_append (front back : List Token) (mark : Token) (other : mark.isNumber = false)
    (first : front.IsChain Apart) (later : back.IsChain Apart) :
    (front ++ mark :: back).IsChain Apart := by
  refine List.isChain_append.mpr ⟨first, apart_cons mark back other later, ?_⟩
  intro a _ b next
  cases next
  exact .inr other

end Token

mutual

theorem Json.tokens_apart (json : Json) : json.tokens.IsChain Token.Apart := by
  match json with
  | .scalar value => exact List.IsChain.singleton _
  | .array items =>
    exact Token.apart_cons _ _ rfl (Token.apart_append _ [] _ rfl (itemTokens_apart items) .nil)
  | .object members =>
    exact Token.apart_cons _ _ rfl
      (Token.apart_append _ [] _ rfl (memberTokens_apart members) .nil)

theorem itemTokens_apart (items : List Json) : (itemTokens items).IsChain Token.Apart := by
  match items with
  | [] => exact .nil
  | [item] => exact item.tokens_apart
  | item :: next :: items =>
    exact Token.apart_append _ _ _ rfl item.tokens_apart (itemTokens_apart (next :: items))

theorem memberTokens_apart (members : List (JsonString × Json)) :
    (memberTokens members).IsChain Token.Apart := by
  match members with
  | [] => exact .nil
  | [(key, value)] =>
    exact Token.apart_cons _ _ rfl (Token.apart_cons _ _ rfl value.tokens_apart)
  | (key, value) :: next :: members =>
    exact Token.apart_append (_ :: _ :: value.tokens) _ _ rfl
      (Token.apart_cons _ _ rfl (Token.apart_cons _ _ rfl value.tokens_apart))
      (memberTokens_apart (next :: members))

end

namespace Json

def Proper (json : Json) : Prop :=
  ∀ token ∈ json.tokens, token.Proper

theorem read?_render (json : Json) (proper : json.Proper) : read? json.render = some json := by
  rw [read?, render, Token.scan?_texts json.tokens proper json.tokens_apart]
  exact json.ofTokens?_tokens

theorem proper_text (cs : Text) : (text cs).Proper :=
  List.forall_mem_singleton.mpr ⟨cs, rfl⟩

theorem proper_nat (n : Nat) : (nat n).Proper :=
  List.forall_mem_singleton.mpr ⟨n, rfl⟩

theorem proper_itemTokens (items : List Json) (each : ∀ item ∈ items, item.Proper) :
    ∀ token ∈ itemTokens items, token.Proper := by
  induction items with
  | nil => simp [itemTokens]
  | cons item items ih =>
    rw [List.forall_mem_cons] at each
    have later := ih each.2
    cases items with
    | nil => exact each.1
    | cons next items =>
      simp only [itemTokens, List.forall_mem_append, List.forall_mem_cons]
      exact ⟨each.1, trivial, later⟩

theorem proper_array (items : List Json) (each : ∀ item ∈ items, item.Proper) :
    (array items).Proper := by
  simp only [Proper, tokens, List.cons_append, List.forall_mem_cons, List.forall_mem_append]
  exact ⟨trivial, proper_itemTokens items each, by simp [Token.Proper]⟩

theorem proper_memberTokens (members : List (Text × Json))
    (each : ∀ member ∈ members, member.2.Proper) :
    ∀ token ∈ memberTokens (members.map fun (key, value) => (.ofText key, value)),
      token.Proper := by
  induction members with
  | nil => simp [memberTokens]
  | cons member members ih =>
    obtain ⟨key, value⟩ := member
    rw [List.forall_mem_cons] at each
    have name : (Token.scalar (.string (.ofText key))).Proper := ⟨key, rfl⟩
    have later := ih each.2
    cases members with
    | nil =>
      simp only [List.map_cons, List.map_nil, memberTokens, List.forall_mem_cons]
      exact ⟨name, trivial, each.1⟩
    | cons next members =>
      simp only [List.map_cons, memberTokens, List.cons_append, List.forall_mem_cons,
        List.forall_mem_append]
      exact ⟨name, trivial, each.1, trivial, later⟩

theorem proper_record (members : List (Text × Json))
    (each : ∀ member ∈ members, member.2.Proper) : (record members).Proper := by
  simp only [Proper, record, tokens, List.cons_append, List.forall_mem_cons,
    List.forall_mem_append]
  exact ⟨trivial, proper_memberTokens members each, by simp [Token.Proper]⟩

end Json
end TaskQuery
