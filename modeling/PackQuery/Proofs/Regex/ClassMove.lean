import Mathlib.Data.List.Find
import Mathlib.Tactic.SplitIfs
import PackQuery.Regex.Reader
import PackQuery.Proofs.Regex.Token

/-!
# Moves between bracket classes

The reader of bracket classes is one loop over the tokens, with the open classes on a stack. Here
it is cut into moves: `move?` tells how the next tokens change the stack, and how many they are
(`readItems_cons`). A move changes the innermost class, opens one, or closes one (`move?_cases`).

**Looking ahead.** A move looks at the tokens behind its own for a range, an operation, or an ASCII
class such as `[:digit:]`. In tokens that end a class, it does not look beyond the closing bracket:
a range would need a dash right behind it, and an ASCII class has a closing bracket at its end only
(`asciiClass?_of_endsClass`). So the move is the same whatever follows (`move?_of_endsClass`), it
takes nothing of what follows, and only the last token can close a class (`move?_within`).

**Members.** A token without a meaning in classes is a member of the innermost one
(`readItems_member`).
-/

namespace PackQuery.Regex

/-! ## Single moves -/

/-- The set of the member that starts with a token, a single one or a range, and how many more
tokens the member takes. -/
def member? (t : Token) : List Token → Option (CharSet × Nat)
  | .raw '-' :: u :: _ =>
    if u.isRaw ']' || u.isRaw '-' then some (t.asSet, 0) else (range? t u).map (·, 2)
  | _ => some (t.asSet, 0)

theorem member?_dash (t u : Token) (ts : List Token) :
    member? t (.raw '-' :: u :: ts) =
      if u.isRaw ']' || u.isRaw '-' then some (t.asSet, 0) else (range? t u).map (·, 2) := rfl

theorem member?_of_ne {t : Token} {ts : List Token} (h : ∀ u rest, ts ≠ .raw '-' :: u :: rest) :
    member? t ts = some (t.asSet, 0) := by
  unfold member?
  split
  · rename_i u rest
    exact absurd rfl (h u rest)
  · rfl

/-- What the next tokens do to the classes that are open. -/
inductive Move where
  /-- These classes are open behind the token and so many more tokens. -/
  | goOn (k : OpenClass) (outer : List OpenClass) (more : Nat)
  /-- The token closes the last class. -/
  | finish (set : CharSet)

/-- The items of the tokens behind the one that makes a move. -/
def Move.resume : Move → List Token → Option (List Item)
  | goOn k outer more, ts => readItems (k :: outer) (ts.drop more)
  | finish s, ts => (readItems [] ts).map (.oneOf s :: ·)

/-- The move from a class and those around it. -/
def move? (k : OpenClass) (outer : List OpenClass) (t : Token) (ts : List Token) :
    Option Move :=
  match k.atStart? t with
  | some k => some (.goOn k outer 0)
  | none =>
    if t.isRaw '[' then
      match asciiClass? (t :: ts) with
      | some (s, n) => some (.goOn (k.add s) outer (n - 1))
      | none => some (.goOn {} ({ k with start := .done } :: outer) 0)
    else if t.isRaw ']' then
      match outer with
      | [] => some (.finish k.close)
      | k' :: outer => some (.goOn (k'.add k.close) outer 0)
    else
      match operation? (t :: ts) with
      | some op => some (.goOn (k.operate op) outer 1)
      | none => (member? t ts).map fun (s, more) => .goOn (k.add s) outer more

@[simp]
theorem readItems_nil : readItems [] [] = some [] := by
  rw [readItems]

/-- A class that is open at the end is invalid. -/
@[simp]
theorem readItems_open_nil (k : OpenClass) (outer : List OpenClass) :
    readItems (k :: outer) [] = none := by
  rw [readItems]

theorem readItems_bracket (ts : List Token) :
    readItems [] (.raw '[' :: ts) = readItems [{}] ts := by
  rw [readItems]
  · rfl
  · exact fun _ _ => by decide

/-- **The reader moves from class to class.** -/
theorem readItems_cons (k : OpenClass) (outer : List OpenClass) (t : Token) (ts : List Token) :
    readItems (k :: outer) (t :: ts) = (move? k outer t ts).bind (·.resume ts) := by
  rw [readItems.eq_def, move?.eq_def]
  dsimp only
  cases k.atStart? t with
  | some k => rfl
  | none =>
    dsimp only
    split_ifs with hopen hclose
    · cases asciiClass? (t :: ts) <;> rfl
    · cases outer <;> rfl
    · cases operation? (t :: ts) with
      | some op => rfl
      | none =>
        dsimp only
        split
        · rename_i u rest
          rw [member?_dash]
          split_ifs
          · rfl
          · cases range? t u <;> rfl
        · rename_i hne
          rw [member?_of_ne fun u rest heq => hne u rest heq]
          rfl

/-! ## Tokens that end a class -/

/-- Whether the last token stands for a closing bracket, and no other one is one as it stands. -/
def EndsClass : List Token → Prop
  | [] => False
  | [t] => t.char? = some ']'
  | t :: ts => t.isRaw ']' = false ∧ EndsClass ts

theorem EndsClass.drop {ts : List Token} (h : EndsClass ts) (n : Nat) :
    ts.drop n = [] ∨ EndsClass (ts.drop n) := by
  induction n generalizing ts with
  | zero => exact Or.inr h
  | succ n ih =>
    match ts, h with
    | [_], _ => exact Or.inl List.drop_nil
    | _ :: _ :: _, h => exact ih h.2

theorem EndsClass.cons {t : Token} {ts : List Token} (ht : t.isRaw ']' = false)
    (h : EndsClass ts) : EndsClass (t :: ts) :=
  match ts, h with
  | _ :: _, h => ⟨ht, h⟩

/-- Text with a closing bracket only at its end has tokens that end a class. -/
theorem endsClass_of_readFrom {e : Token.Escape} {s : List Char} {ts : List Token} (hs : ']' ∉ s)
    (h : Token.readFrom e (s ++ [']']) = some ts) : EndsClass ts := by
  induction s generalizing e ts with
  | nil =>
    rw [List.nil_append, Token.readFrom_cons] at h
    rcases Token.step_bracket e with ⟨t, hstep, ht⟩ | ⟨negated, name, hstep, -⟩ | hstep
    · rw [hstep] at h
      cases h
      exact ht
    · rw [hstep] at h
      cases h
    · rw [hstep] at h
      cases h
  | cons c s ih =>
    obtain ⟨hc, hs⟩ := not_or.mp (mt List.mem_cons.mpr hs)
    rw [List.cons_append, Token.readFrom_cons] at h
    cases hstep : Token.step e c with
    | none => simp [hstep] at h
    | some next =>
      rw [hstep] at h
      cases next with
      | inr e' => exact ih hs h
      | inl t =>
        obtain ⟨ts', hts, rfl⟩ := Option.map_eq_some_iff.mp h
        refine EndsClass.cons ?_ (ih hs hts)
        cases t with
        | raw d =>
          rw [Token.isRaw, beq_eq_false_iff_ne]
          exact fun hd => hc (hd ▸ Token.eq_of_step_raw hstep)
        | _ => rfl

/-! ## ASCII classes -/

theorem asciiSpellings_bracket {p : List Char × CharSet} (hp : p ∈ asciiSpellings) :
    ∃ w, p.1 = w ++ [']'] ∧ ']' ∉ w := by
  have hlast : ∀ p ∈ asciiSpellings, p.1 = p.1.dropLast ++ [']'] ∧ ']' ∉ p.1.dropLast := by
    decide +kernel
  exact ⟨_, hlast p hp⟩

theorem Token.isRaw_iff {c : Char} {t : Token} : t.isRaw c = true ↔ t = .raw c := by
  cases t <;> simp [Token.isRaw]

/-- Whether the first tokens are some characters as they stand. -/
def spells (w : List Char) (ts : List Token) : Bool :=
  w.length ≤ ts.length && (w.zip ts).all fun (c, t) => t.isRaw c

theorem asciiClass?_eq (ts : List Token) :
    asciiClass? ts =
      (asciiSpellings.find? fun p => spells p.1 ts).map fun p => (p.2, p.1.length) := rfl

theorem spells_cons (c : Char) (w : List Char) (t : Token) (ts : List Token) :
    spells (c :: w) (t :: ts) = (t.isRaw c && spells w ts) := by
  simp only [spells, List.length_cons, Nat.add_le_add_iff_right, List.zip_cons_cons, List.all_cons]
  exact Bool.and_left_comm _ _ _

theorem spells_iff {w : List Char} {ts : List Token} :
    spells w ts = true ↔ w.map Token.raw <+: ts := by
  induction w generalizing ts with
  | nil => simp [spells]
  | cons c w ih =>
    cases ts with
    | nil => simp [spells]
    | cons t ts =>
      rw [spells_cons, Bool.and_eq_true, ih, Token.isRaw_iff, List.map_cons,
        List.cons_prefix_cons, eq_comm]

/-- A spelling has a closing bracket at its end only, and so have tokens that end a class. -/
theorem spells_append_iff {w : List Char} (hw : ']' ∉ w) {ts : List Token} (h : EndsClass ts)
    (tq : List Token) :
    spells (w ++ [']']) (ts ++ tq) = true ↔ (w ++ [']']).map Token.raw = ts := by
  rw [spells_iff]
  induction w generalizing ts with
  | nil =>
    match ts, h with
    | [t], _ => simp
    | t :: t' :: ts, h =>
      have ht : Token.raw ']' ≠ t := fun heq => Bool.false_ne_true (h.1.symm.trans (heq ▸ rfl))
      simp [ht]
  | cons c w ih =>
    obtain ⟨hc, hw⟩ := not_or.mp (mt List.mem_cons.mpr hw)
    match ts, h with
    | [t], h =>
      have ht : Token.raw c ≠ t := by
        rintro rfl
        exact hc (Option.some_inj.mp h).symm
      simp [ht]
    | t :: t' :: ts, h => simpa using fun _ => ih hw h.2

/-- **An ASCII class in tokens that end a class takes all of them.** -/
theorem asciiClass?_of_endsClass {ts : List Token} (h : EndsClass ts) (tq : List Token) :
    asciiClass? (ts ++ tq) = asciiClass? ts ∧
      ∀ s n, asciiClass? ts = some (s, n) → n = ts.length := by
  have hspells : ∀ p ∈ asciiSpellings, ∀ tq,
      spells p.1 (ts ++ tq) = true ↔ p.1.map Token.raw = ts := by
    intro p hp tq
    obtain ⟨w, hpw, hw⟩ := asciiSpellings_bracket hp
    rw [hpw, spells_append_iff hw h]
  have hnil : ∀ p ∈ asciiSpellings, spells p.1 ts = true ↔ p.1.map Token.raw = ts := by
    intro p hp
    rw [← hspells p hp [], List.append_nil]
  constructor
  · rw [asciiClass?_eq, asciiClass?_eq]
    refine congrArg _ (List.find?_congr fun p hp => Bool.eq_iff_iff.mpr ?_)
    rw [hspells p hp, hnil p hp]
  · intro s n hclass
    rw [asciiClass?_eq] at hclass
    obtain ⟨p, hfind, heq⟩ := Option.map_eq_some_iff.mp hclass
    have hfirst : spells p.1 ts = true := by simpa using List.find?_some hfind
    rw [hnil p (List.mem_of_find?_eq_some hfind)] at hfirst
    rw [← hfirst, List.length_map]
    exact (Prod.mk.inj heq).2.symm

/-! ## What a move can do -/

theorem length_le_of_asciiClass? {ts : List Token} {s : CharSet} {n : Nat}
    (h : asciiClass? ts = some (s, n)) : n ≤ ts.length := by
  rw [asciiClass?_eq] at h
  obtain ⟨p, hfind, heq⟩ := Option.map_eq_some_iff.mp h
  have hspells : spells p.1 ts = true := by simpa using List.find?_some hfind
  cases heq
  exact of_decide_eq_true ((Bool.and_eq_true _ _).mp hspells).1

theorem length_pos_of_operation? {t : Token} {ts : List Token} {op : SetOperation}
    (h : operation? (t :: ts) = some op) : 1 ≤ ts.length := by
  cases ts with
  | nil => cases t <;> cases h
  | cons u ts => exact Nat.succ_le_succ (Nat.zero_le _)

theorem length_le_of_member? {t : Token} {ts : List Token} {s : CharSet} {more : Nat}
    (h : member? t ts = some (s, more)) : more ≤ ts.length := by
  unfold member? at h
  split at h
  · split_ifs at h
    · cases h
      exact Nat.zero_le _
    · obtain ⟨s', -, heq⟩ := Option.map_eq_some_iff.mp h
      cases heq
      simp
  · cases h
    exact Nat.zero_le _

/-- **What a move can do:** it changes the innermost class only, it opens a class, or it closes one,
which takes a closing bracket. -/
theorem move?_cases {k : OpenClass} {outer : List OpenClass} {t : Token} {ts : List Token}
    {m : Move} (h : move? k outer t ts = some m) :
    (∃ k' more, m = .goOn k' outer more ∧ more ≤ ts.length) ∨
      (∃ k', m = .goOn {} (k' :: outer) 0) ∨
      t = .raw ']' ∧
        (outer = [] ∧ m = .finish k.close ∨
          ∃ k' outer', outer = k' :: outer' ∧ m = .goOn (k'.add k.close) outer' 0) := by
  unfold move? at h
  split at h
  · cases h
    exact Or.inl ⟨_, 0, rfl, Nat.zero_le _⟩
  split_ifs at h with hopen hclose
  · split at h
    · rename_i s n hascii
      cases h
      have hn := length_le_of_asciiClass? hascii
      exact Or.inl ⟨_, n - 1, rfl, Nat.sub_le_of_le_add hn⟩
    · cases h
      exact Or.inr (Or.inl ⟨_, rfl⟩)
  · refine Or.inr (Or.inr ⟨Token.isRaw_iff.mp hclose, ?_⟩)
    split at h
    · cases h
      exact Or.inl ⟨rfl, rfl⟩
    · cases h
      exact Or.inr ⟨_, _, rfl, rfl⟩
  · split at h
    · rename_i op hop
      cases h
      exact Or.inl ⟨_, 1, rfl, length_pos_of_operation? hop⟩
    · obtain ⟨⟨s, more⟩, hmember, heq⟩ := Option.map_eq_some_iff.mp h
      cases heq
      exact Or.inl ⟨_, more, rfl, length_le_of_member? hmember⟩

/-! ## Moves within a class text -/

/-- Whether a character as it stands does not come first. -/
def NotFirst (c : Char) : List Token → Prop
  | [] => True
  | t :: _ => t.isRaw c = false

/-- Whether a move stays within tokens that end a class, inside the classes around. A class that
closes a class around is the last thing that can happen. -/
def Move.Within (outer : List OpenClass) (ts : List Token) : Move → Prop
  | goOn _ outer' more =>
    more ≤ ts.length ∧
      (ts.drop more = [] ∨ EndsClass (ts.drop more) ∧ (outer ≠ [] → outer' ≠ []))
  | finish _ => outer = [] ∧ ts = []

theorem operation?_of_endsClass {t : Token} {ts : List Token} (h : EndsClass (t :: ts))
    (ht : t.isRaw ']' = false) (tq : List Token) :
    operation? (t :: (ts ++ tq)) = operation? (t :: ts) := by
  cases ts with
  | nil =>
    cases t with
    | raw c =>
      have hc : c = ']' := Option.some_inj.mp h
      rw [hc] at ht
      cases ht
    | literal c => rfl
    | set s => rfl
  | cons u ts => cases t <;> cases u <;> rfl

theorem member?_of_endsClass {t : Token} {ts : List Token} (h : EndsClass (t :: ts))
    {tq : List Token} (htq : NotFirst '-' tq) : member? t (ts ++ tq) = member? t ts := by
  match ts, h with
  | [], _ =>
    rw [List.nil_append, member?_of_ne, member?_of_ne (by simp)]
    rintro u rest rfl
    cases htq
  | [u], h =>
    have hu : u ≠ .raw '-' := by
      rintro rfl
      have hchar : some '-' = some ']' := h.2
      cases hchar
    rw [member?_of_ne (by simp [hu]), member?_of_ne (by simp [hu])]
  | u :: v :: ts, _ =>
    by_cases hu : u = .raw '-'
    · rw [hu]
      rfl
    · rw [member?_of_ne (by simp [hu]), member?_of_ne (by simp [hu])]

/-- **A move in a class text** does not depend on what stands behind the text. -/
theorem move?_of_endsClass (k : OpenClass) (outer : List OpenClass) {t : Token} {ts : List Token}
    (h : EndsClass (t :: ts)) {tq : List Token} (htq : NotFirst '-' tq) :
    move? k outer t (ts ++ tq) = move? k outer t ts := by
  have hascii : asciiClass? (t :: (ts ++ tq)) = asciiClass? (t :: ts) :=
    (asciiClass?_of_endsClass h tq).1
  unfold move?
  rw [hascii, member?_of_endsClass h htq]
  cases hclose : t.isRaw ']' with
  | true => rfl
  | false => rw [operation?_of_endsClass h hclose]

/-- A move without a closing bracket stays inside the classes that are open. -/
theorem Move.within_of_drop {k : OpenClass} {outer outer' : List OpenClass} {t : Token}
    {ts : List Token} (h : EndsClass (t :: ts)) {more : Nat} (hmore : more ≤ ts.length)
    (houter : outer ≠ [] → outer' ≠ []) : (goOn k outer' more).Within outer ts :=
  ⟨hmore, (h.drop (more + 1)).imp id fun hends => ⟨hends, houter⟩⟩

theorem eq_nil_of_endsClass {ts : List Token} (h : EndsClass (.raw ']' :: ts)) : ts = [] := by
  cases ts with
  | nil => rfl
  | cons u ts => cases h.1

/-- **A move in a class text stays in it.** -/
theorem move?_within {k : OpenClass} {outer : List OpenClass} {t : Token} {ts : List Token}
    (h : EndsClass (t :: ts)) {m : Move} (hm : move? k outer t ts = some m) :
    m.Within outer ts := by
  rcases move?_cases hm with ⟨k', more, rfl, hmore⟩ | ⟨k', rfl⟩ | ⟨rfl, hclose⟩
  · exact Move.within_of_drop h hmore id
  · exact Move.within_of_drop h (Nat.zero_le _) nofun
  · have hts := eq_nil_of_endsClass h
    rcases hclose with ⟨houter, rfl⟩ | ⟨k', outer', -, rfl⟩
    · exact ⟨houter, hts⟩
    · exact ⟨Nat.zero_le _, Or.inl (by rw [hts]; rfl)⟩

/-! ## Members -/

/-- **A token without a meaning in classes** is a member of the innermost one. -/
theorem readItems_member (k : OpenClass) (outer : List OpenClass) {t : Token} {ts : List Token}
    (h : ∀ c ∈ ['[', ']', '^', '&', '-', '~'], t.isRaw c = false) (hts : NotFirst '-' ts) :
    readItems (k :: outer) (t :: ts) = readItems (k.add t.asSet :: outer) ts := by
  simp only [List.forall_mem_cons] at h
  obtain ⟨hopen, hclose, hcaret, hand, hdash, htilde, -⟩ := h
  have hstart : k.atStart? t = none := by
    cases hk : k.start <;> simp [OpenClass.atStart?, hk, hclose, hcaret, hdash]
  have hop : operation? (t :: ts) = none := by
    unfold operation?
    split
    · rename_i c d _ heq
      obtain rfl := (List.cons.inj heq).1
      rw [Token.isRaw, beq_eq_false_iff_ne] at hand hdash htilde
      have hmark : SetOperation.ofMark? c = none := by
        unfold SetOperation.ofMark?
        split <;> simp_all
      rw [hmark, ite_self]
    · rfl
  have hmember : member? t ts = some (t.asSet, 0) := by
    refine member?_of_ne ?_
    rintro u rest rfl
    cases hts
  rw [readItems_cons, move?.eq_def, hstart]
  simp only [hopen, hclose, hop, hmember]
  rfl

end PackQuery.Regex
