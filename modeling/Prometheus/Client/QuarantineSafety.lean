import Prometheus.Client.Quarantine
import Prometheus.Machine.Table

/-!
# Stored items stay readable

The rely and the guarantee of one call of the vault: it touches its own temporary file and nothing
else, except that it links that file as an item that was not there. So an item always holds bytes
that were given to a call, under their digest. A call is only held up by the checks of `inspect_item`
when an item has a second link, and it has one exactly while the call that published it has not
removed its temporary file: for a short time when that call goes on, for good when it was killed
there.
-/

namespace Prometheus.Client.Quarantine

open Prometheus.Codec Prometheus.Machine

variable (sha256 : Bytes → Bytes) (known : Bytes → Prop)

/-- What holds of the directory between two operations. -/
structure Sound (w : Vault) : Prop where
  distinct : (w.names.map Prod.fst).Nodup
  bounded : ∀ n i, (n, i) ∈ w.names → i < w.next
  temps : ∀ t t' i, (Name.temp t, i) ∈ w.names → (Name.temp t', i) ∈ w.names → t = t'
  items : ∀ d d' i, (Name.item d, i) ∈ w.names → (Name.item d', i) ∈ w.names → d = d'
  stored : ∀ d i, (Name.item d, i) ∈ w.names →
    known (w.contents i) ∧ (w.contents i).length ≤ maxItemLen ∧ sha256 (w.contents i) = d

/-- What the other calls may do between two operations of the call with this token. -/
structure Rely (k : Token) (w w' : Vault) : Prop where
  sound : Sound sha256 known w → Sound sha256 known w'
  mine : ∀ i, (Name.temp k, i) ∈ w'.names ↔ (Name.temp k, i) ∈ w.names
  items : ∀ d i, (Name.item d, i) ∈ w.names → (Name.item d, i) ∈ w'.names
  unlinked : Sound sha256 known w → ∀ d i, (Name.temp k, i) ∈ w.names →
    (Name.item d, i) ∈ w'.names → (Name.item d, i) ∈ w.names
  mineKept : Sound sha256 known w → ∀ i, (Name.temp k, i) ∈ w.names →
    w'.contents i = w.contents i
  itemKept : Sound sha256 known w → ∀ d i, (Name.item d, i) ∈ w.names →
    w'.contents i = w.contents i
  linked : Sound sha256 known w → ∀ d t i, (Name.item d, i) ∈ w.names →
    (Name.temp t, i) ∈ w'.names → (Name.temp t, i) ∈ w.names

/-- What an operation of the call with this token may do. -/
structure Guar (k : Token) (w w' : Vault) : Prop where
  sound : Sound sha256 known w → Sound sha256 known w'
  temps : ∀ t, t ≠ k → ∀ i, (Name.temp t, i) ∈ w'.names ↔ (Name.temp t, i) ∈ w.names
  items : ∀ d i, (Name.item d, i) ∈ w.names → (Name.item d, i) ∈ w'.names
  made : ∀ d i, (Name.item d, i) ∈ w'.names →
    (Name.item d, i) ∈ w.names ∨ (Name.temp k, i) ∈ w.names
  kept : Sound sha256 known w → ∀ n i, (n, i) ∈ w.names → n ≠ Name.temp k →
    w'.contents i = w.contents i
  linked : Sound sha256 known w → ∀ d t i, (Name.item d, i) ∈ w.names →
    (Name.temp t, i) ∈ w'.names → (Name.temp t, i) ∈ w.names

/-- There is an item for the digest. -/
def Present (d : Bytes) (w : Vault) : Prop := ∃ i, (Name.item d, i) ∈ w.names

/-- There is an item for the digest, and its file has no temporary name. -/
def Settled (d : Bytes) (w : Vault) : Prop :=
  ∃ i, (Name.item d, i) ∈ w.names ∧ ∀ t, (Name.temp t, i) ∉ w.names

/-- The last inspection that a `store` makes of an item finds no second link. -/
def Admissible (call : Call) (op : Op) (w : Vault) : Prop :=
  match call, op with
  | .store _, .metadata (.item d) 0 => Present d w → Settled d w
  | _, _ => True

variable {sha256 known} {k : Token} {w w' : Vault}

/-! ## Rely and guarantee -/

theorem Rely.refl (k : Token) (w : Vault) : Rely sha256 known k w w :=
  ⟨fun h => h, fun _ => Iff.rfl, fun _ _ h => h, fun _ _ _ _ h => h, fun _ _ _ => rfl,
    fun _ _ _ _ => rfl, fun _ _ _ _ _ h => h⟩

theorem Guar.refl (k : Token) (w : Vault) : Guar sha256 known k w w :=
  ⟨fun h => h, fun _ _ _ => Iff.rfl, fun _ _ h => h, fun _ _ h => .inl h, fun _ _ _ _ _ => rfl,
    fun _ _ _ _ _ h => h⟩

theorem Rely.trans {a b c : Vault} (hab : Rely sha256 known k a b) (hbc : Rely sha256 known k b c) :
    Rely sha256 known k a c where
  sound h := hbc.sound (hab.sound h)
  mine i := (hbc.mine i).trans (hab.mine i)
  items d i h := hbc.items d i (hab.items d i h)
  unlinked sound d i isMine isItem :=
    hab.unlinked sound d i isMine
      (hbc.unlinked (hab.sound sound) d i ((hab.mine i).mpr isMine) isItem)
  mineKept sound i isMine :=
    (hbc.mineKept (hab.sound sound) i ((hab.mine i).mpr isMine)).trans (hab.mineKept sound i isMine)
  itemKept sound d i isItem :=
    (hbc.itemKept (hab.sound sound) d i (hab.items d i isItem)).trans
      (hab.itemKept sound d i isItem)
  linked sound d t i isItem isTemp :=
    hab.linked sound d t i isItem
      (hbc.linked (hab.sound sound) d t i (hab.items d i isItem) isTemp)

/-- What one call does, every other one allows. -/
theorem Guar.rely {k' : Token} (other : k ≠ k') (h : Guar sha256 known k w w') :
    Rely sha256 known k' w w' where
  sound := h.sound
  mine := h.temps k' other.symm
  items := h.items
  unlinked sound d i isMine isItem := by
    rcases h.made d i isItem with old | isOther
    · exact old
    · exact absurd (sound.temps k k' i isOther isMine) other
  mineKept sound i isMine := h.kept sound _ i isMine fun same => other (Name.temp.inj same).symm
  itemKept sound d i isItem := h.kept sound _ i isItem fun same => by cases same
  linked := h.linked

/-! ## The directory -/

theorem lookup_eq_some (sound : Sound sha256 known w) {n : Name} {i : Nat} :
    w.lookup n = some i ↔ (n, i) ∈ w.names := by
  constructor
  · intro found
    obtain ⟨entry, isEntry, rfl⟩ := Option.map_eq_some_iff.mp found
    have isName : entry.1 = n := by simpa using List.find?_some isEntry
    rw [← isName]
    exact List.mem_of_find?_eq_some isEntry
  · intro isEntry
    cases found : w.names.find? (fun entry => entry.1 = n) with
    | none => exact absurd (decide_eq_true rfl) (List.find?_eq_none.mp found _ isEntry)
    | some entry =>
      have isName : entry.1 = n := by simpa using List.find?_some found
      have same := List.inj_on_of_nodup_map sound.distinct (List.mem_of_find?_eq_some found)
        isEntry isName
      rw [Vault.lookup, found, same]
      rfl

theorem lookup_eq_none {n : Name} : w.lookup n = none ↔ ∀ i, (n, i) ∉ w.names := by
  rw [Vault.lookup, Option.map_eq_none_iff, List.find?_eq_none]
  constructor
  · intro absent i isEntry
    exact absent _ isEntry (decide_eq_true rfl)
  · rintro absent ⟨n', i⟩ isEntry
    simp only [decide_eq_true_eq]
    rintro rfl
    exact absent i isEntry

/-- An item has one link as long as its file has no temporary name. -/
theorem links_eq_one_iff (sound : Sound sha256 known w) {d : Bytes} {i : Nat}
    (isItem : (Name.item d, i) ∈ w.names) :
    w.links i = 1 ↔ ∀ t, (Name.temp t, i) ∉ w.names := by
  constructor
  · intro one t isTemp
    obtain ⟨entry, only⟩ := List.length_eq_one_iff.mp one
    have item : (Name.item d, i) ∈ w.names.filter (fun entry => entry.2 = i) :=
      List.mem_filter.mpr ⟨isItem, decide_eq_true rfl⟩
    have temp : (Name.temp t, i) ∈ w.names.filter (fun entry => entry.2 = i) :=
      List.mem_filter.mpr ⟨isTemp, decide_eq_true rfl⟩
    rw [only, List.mem_singleton] at item temp
    cases item.trans temp.symm
  · intro single
    have only : ∀ entry ∈ w.names, entry.2 = i → entry = (Name.item d, i) := by
      rintro ⟨n, j⟩ isEntry rfl
      cases n with
      | temp t => exact absurd isEntry (single t)
      | item d' => rw [sound.items d' d j isEntry isItem]
    have alike :
        w.names.countP (fun entry => entry.2 = i) = w.names.count (Name.item d, i) := by
      refine List.countP_congr fun entry isEntry => ?_
      simp only [decide_eq_true_eq, beq_iff_eq]
      constructor
      · exact only entry isEntry
      · rintro rfl
        rfl
    rw [Vault.links, ← List.countP_eq_length_filter, alike]
    exact List.count_eq_one_of_mem sound.distinct.of_map isItem

/-! ## What a call knows of the directory -/

/-- Other calls leave the assertion alone. -/
def Stable (sha256 : Bytes → Bytes) (known : Bytes → Prop) (k : Token) (Q : Vault → Prop) : Prop :=
  ∀ w w', Rely sha256 known k w w' → Q w → Q w'

/-- The temporary file of the call, and its content, before it is linked. -/
structure Private (sha256 : Bytes → Bytes) (known : Bytes → Prop) (k : Token) (file : Nat)
    (content : Bytes) (w : Vault) : Prop where
  sound : Sound sha256 known w
  mine : (Name.temp k, file) ∈ w.names
  unlinked : ∀ d, (Name.item d, file) ∉ w.names
  content : w.contents file = content

/-- There is an item for the digest, and the call still has its temporary file. -/
structure Overtaken (sha256 : Bytes → Bytes) (known : Bytes → Prop) (k : Token) (d : Bytes)
    (w : Vault) : Prop where
  sound : Sound sha256 known w
  mine : ∃ i, (Name.temp k, i) ∈ w.names
  present : Present d w

/-- Moreover nobody else has a temporary name for the file of the item. -/
structure Published (sha256 : Bytes → Bytes) (known : Bytes → Prop) (k : Token) (d : Bytes)
    (w : Vault) : Prop where
  sound : Sound sha256 known w
  mine : ∃ i, (Name.temp k, i) ∈ w.names
  single : ∃ i, (Name.item d, i) ∈ w.names ∧ ∀ t, t ≠ k → (Name.temp t, i) ∉ w.names

/-- The call has no temporary file. -/
structure Absent (sha256 : Bytes → Bytes) (known : Bytes → Prop) (k : Token) (w : Vault) : Prop where
  sound : Sound sha256 known w
  none : ∀ i, (Name.temp k, i) ∉ w.names

theorem private_stable {file : Nat} {content : Bytes} :
    Stable sha256 known k (Private sha256 known k file content) := by
  intro w w' changed held
  refine ⟨changed.sound held.sound, (changed.mine file).mpr held.mine, fun d isItem => ?_, ?_⟩
  · exact held.unlinked d (changed.unlinked held.sound d file held.mine isItem)
  · exact (changed.mineKept held.sound file held.mine).trans held.content

theorem Present.rely {d : Bytes} (h : Present d w) (changed : Rely sha256 known k w w') :
    Present d w' := by
  obtain ⟨i, isItem⟩ := h
  exact ⟨i, changed.items d i isItem⟩

theorem Settled.present {d : Bytes} (h : Settled d w) : Present d w := by
  obtain ⟨i, isItem, -⟩ := h
  exact ⟨i, isItem⟩

theorem Settled.rely {d : Bytes} (sound : Sound sha256 known w) (h : Settled d w)
    (changed : Rely sha256 known k w w') : Settled d w' := by
  obtain ⟨i, isItem, single⟩ := h
  exact ⟨i, changed.items d i isItem, fun t isTemp =>
    single t (changed.linked sound d t i isItem isTemp)⟩

theorem overtaken_stable {d : Bytes} : Stable sha256 known k (Overtaken sha256 known k d) := by
  intro w w' changed held
  obtain ⟨i, isMine⟩ := held.mine
  exact ⟨changed.sound held.sound, ⟨i, (changed.mine i).mpr isMine⟩, held.present.rely changed⟩

theorem published_stable {d : Bytes} : Stable sha256 known k (Published sha256 known k d) := by
  intro w w' changed held
  obtain ⟨i, isMine⟩ := held.mine
  obtain ⟨j, isItem, single⟩ := held.single
  refine ⟨changed.sound held.sound, ⟨i, (changed.mine i).mpr isMine⟩, j,
    changed.items d j isItem, fun t other isTemp => ?_⟩
  exact single t other (changed.linked held.sound d t j isItem isTemp)

theorem absent_stable : Stable sha256 known k (Absent sha256 known k) := by
  intro w w' changed held
  exact ⟨changed.sound held.sound, fun i isMine => held.none i ((changed.mine i).mp isMine)⟩

theorem Stable.and {Q Q' : Vault → Prop} (h : Stable sha256 known k Q)
    (h' : Stable sha256 known k Q') : Stable sha256 known k fun w => Q w ∧ Q' w :=
  fun w w' changed held => ⟨h w w' changed held.1, h' w w' changed held.2⟩

/-- The call has no temporary file, and the item is settled. -/
theorem settled_stable {d : Bytes} :
    Stable sha256 known k fun w => Absent sha256 known k w ∧ Settled d w :=
  fun w w' changed held =>
    ⟨absent_stable w w' changed held.1, held.2.rely held.1.sound changed⟩

/-- The content of an item is the bytes that were stored under it. -/
theorem content_eq (sound : Sound sha256 known w) {bytes : Bytes} (isKnown : known bytes)
    (apart : ∀ a b, known a → known b → NoCollision sha256 a b) {i : Nat}
    (isItem : (Name.item (sha256 bytes), i) ∈ w.names) : w.contents i = bytes := by
  obtain ⟨storedKnown, -, sameDigest⟩ := sound.stored _ i isItem
  exact apart _ _ storedKnown isKnown sameDigest

/-! ## Rules for one operation -/

/-- `Cooperates` for the calls of the vault. -/
abbrev Coop (sha256 : Bytes → Bytes) (known : Bytes → Prop) (k : Token) (call : Call) {α : Type}
    (p : Process α) (post : Except String α → Vault → Prop) (w : Vault) : Prop :=
  Program.Cooperates exec (Rely sha256 known k) (Guar sha256 known k) (Admissible call)
    p.run post w

variable {α β : Type} {call : Call} {Q : Vault → Prop}

theorem Coop.pure {a : α} {post : Except String α → Vault → Prop}
    (stable : Stable sha256 known k Q) (holds : Q w) (returned : ∀ w, Q w → post (.ok a) w) :
    Coop sha256 known k call (Pure.pure a) post w :=
  fun w' changed => returned w' (stable w w' changed holds)

theorem Coop.raise {e : String} {post : Except String α → Vault → Prop}
    (stable : Stable sha256 known k Q) (holds : Q w) (raised : ∀ w, Q w → post (.error e) w) :
    Coop sha256 known k call (throw e) post w :=
  fun w' changed => raised w' (stable w w' changed holds)

/-- An operation, and what follows it. -/
theorem Coop.request {op : Op} {f : op.Answer → Process β}
    {post : Except String β → Vault → Prop} (stable : Stable sha256 known k Q) (holds : Q w)
    (kept : ∀ c w, Q w → Guar sha256 known k w (exec op c w).1)
    (rest : ∀ c w, Q w → Admissible call op w →
      Coop sha256 known k call (f (exec op c w).2) post (exec op c w).1) :
    Coop sha256 known k call (request op >>= f) post w := by
  intro w' changed admissible c
  have holds' := stable w w' changed holds
  exact ⟨kept c w' holds', rest c w' holds' admissible⟩

/-- An operation that changes nothing. -/
theorem Coop.query {op : Op} {f : op.Answer → Process β}
    {post : Except String β → Vault → Prop} (stable : Stable sha256 known k Q) (holds : Q w)
    (unchanged : ∀ c w, (exec op c w).1 = w)
    (rest : ∀ c w, Q w → Admissible call op w → Coop sha256 known k call (f (exec op c w).2) post w) :
    Coop sha256 known k call (Quarantine.request op >>= f) post w := by
  refine Coop.request stable holds (fun c w _ => ?_) fun c w holds admissible => ?_
  · rw [unchanged]
    exact Guar.refl k w
  · rw [unchanged]
    exact rest c w holds admissible

/-- A check that holds. -/
theorem Coop.ensure {condition : Bool} {e : String} {f : Unit → Process β}
    {post : Except String β → Vault → Prop} (h : condition = true)
    (rest : Coop sha256 known k call (f ()) post w) :
    Coop sha256 known k call (ensure condition e >>= f) post w := by
  rw [h]
  exact rest

/-- A check that may fail. -/
theorem Coop.check {condition : Bool} {e : String} {f : Unit → Process β}
    {post : Except String β → Vault → Prop}
    (rest : condition = true → Coop sha256 known k call (f ()) post w)
    (failed : condition = false → ∀ w', Rely sha256 known k w w' → post (.error e) w') :
    Coop sha256 known k call (Quarantine.ensure condition e >>= f) post w := by
  cases condition with
  | true => exact rest rfl
  | false => exact failed rfl

/-- A part of a call that may raise. -/
theorem Coop.bind {p : Process α} {f : α → Process β} {post : Except String β → Vault → Prop}
    (h : Coop sha256 known k call p (fun r w =>
      match r with
      | .ok a => Coop sha256 known k call (f a) post w
      | .error e => ∀ w', Rely sha256 known k w w' → post (.error e) w') w) :
    Coop sha256 known k call (p >>= f) post w := by
  refine Program.Cooperates.bindExcept (Rely.refl k) (h.mono fun r w holds => ?_)
  cases r with
  | ok a => exact holds
  | error e => exact holds

/-! ## Reading -/

/-- A call that reads an item of known bytes. -/
structure Reads (sha256 : Bytes → Bytes) (known : Bytes → Prop) (k : Token) (call : Call)
    (bytes : Bytes) (Q : Vault → Prop) : Prop where
  stable : Stable sha256 known k Q
  sound : ∀ w, Q w → Sound sha256 known w
  present : ∀ w, Q w → Present (sha256 bytes) w
  sure : ∀ w, Q w → Admissible call (.metadata (.item (sha256 bytes)) 0) w → Settled (sha256 bytes) w
  isKnown : known bytes
  small : bytes.length ≤ maxItemLen
  apart : ∀ a b, known a → known b → NoCollision sha256 a b

theorem Reads.settled {bytes : Bytes} (reads : Reads sha256 known k call bytes Q) :
    Stable sha256 known k fun w => Q w ∧ Settled (sha256 bytes) w :=
  fun w w' changed held =>
    ⟨reads.stable w w' changed held.1, held.2.rely (reads.sound w held.1) changed⟩

theorem Reads.content {bytes : Bytes} (reads : Reads sha256 known k call bytes Q) (holds : Q w) {i : Nat}
    (isItem : (Name.item (sha256 bytes), i) ∈ w.names) : w.contents i = bytes :=
  content_eq (reads.sound w holds) reads.isKnown reads.apart isItem

/-- An inspection raises only where attempts are left. -/
theorem inspectItem_coop {bytes : Bytes} (reads : Reads sha256 known k call bytes Q) (retries : Nat)
    (holds : Q w) :
    Coop sha256 known k call (inspectItem (.item (sha256 bytes)) retries) (fun r w => Q w ∧
      ((∃ metadata, r = .ok metadata ∧ metadata.len = bytes.length) ∧ Settled (sha256 bytes) w ∨
        retries ≠ 0 ∧ ∃ e, r = .error e)) w := by
  apply Coop.query reads.stable holds (fun _ _ => rfl)
  intro c w holds admissible
  obtain ⟨i, isItem⟩ := reads.present w holds
  have sound := reads.sound w holds
  have answer : (exec (.metadata (.item (sha256 bytes)) retries) c w).2 =
      some ⟨w.links i, bytes.length⟩ := by
    simp only [exec, (lookup_eq_some sound).mpr isItem, Option.map_some,
      reads.content holds isItem]
    rfl
  rw [answer]
  apply Coop.check
  · intro one
    have settled : Settled (sha256 bytes) w :=
      ⟨i, isItem, (links_eq_one_iff sound isItem).mp (of_decide_eq_true one)⟩
    exact Coop.pure reads.settled ⟨holds, settled⟩
      fun w held => ⟨held.1, .inl ⟨⟨_, rfl, rfl⟩, held.2⟩⟩
  · intro twice w' changed
    refine ⟨reads.stable w w' changed holds, .inr ⟨?_, _, rfl⟩⟩
    rintro rfl
    obtain ⟨j, isItem', single⟩ := reads.sure w holds admissible
    have same := List.inj_on_of_nodup_map sound.distinct isItem isItem' rfl
    obtain rfl := (Prod.mk.inj same).2
    exact of_decide_eq_false twice ((links_eq_one_iff sound isItem).mpr single)

/-- So does a read; otherwise it returns the stored bytes. -/
theorem read_coop {bytes : Bytes} (reads : Reads sha256 known k call bytes Q) (retries : Nat)
    (holds : Q w) :
    Coop sha256 known k call (read sha256 (recordOf sha256 bytes) retries) (fun r w => Q w ∧
      (r = .ok bytes ∧ Settled (sha256 bytes) w ∨ retries ≠ 0 ∧ ∃ e, r = .error e)) w := by
  apply Coop.ensure (decide_eq_true reads.small)
  apply Coop.bind
  refine (inspectItem_coop reads retries holds).mono fun r w inspected => ?_
  obtain ⟨holds, ⟨⟨metadata, rfl, sameLen⟩, settled⟩ | ⟨some', e, rfl⟩⟩ := inspected
  · apply Coop.ensure (decide_eq_true sameLen)
    apply Coop.query reads.settled ⟨holds, settled⟩ (fun _ _ => rfl)
    rintro c w ⟨holds, settled⟩ _
    obtain ⟨i, isItem⟩ := reads.present w holds
    have found := (lookup_eq_some (reads.sound w holds)).mpr isItem
    have answer : (exec (.openFile (.item (recordOf sha256 bytes).digest)) c w).2 = some i := found
    have itemStable : Stable sha256 known k fun w =>
        (Q w ∧ Settled (sha256 bytes) w) ∧ (Name.item (sha256 bytes), i) ∈ w.names :=
      reads.settled.and fun w w' changed isItem => changed.items _ _ isItem
    rw [answer]
    apply Coop.query itemStable ⟨⟨holds, settled⟩, isItem⟩ (fun _ _ => rfl)
    rintro c w ⟨held, isItem⟩ _
    have read : (exec (.readToEnd i) c w).2 = bytes := by
      show (w.contents i).take (maxItemLen + 1) = bytes
      rw [reads.content held.1 isItem, List.take_of_length_le]
      have := reads.small
      omega
    rw [read]
    apply Coop.ensure (decide_eq_true rfl)
    apply Coop.ensure (decide_eq_true rfl)
    exact Coop.pure reads.settled held fun w held => ⟨held.1, .inl ⟨rfl, held.2⟩⟩
  · intro w' changed
    exact ⟨reads.stable w w' changed holds, .inr ⟨some', e, rfl⟩⟩

/-- A verification succeeds: its last attempt finds no second link. -/
theorem attempts_coop {bytes : Bytes} (reads : Reads sha256 known k call bytes Q) (n : Nat)
    (last : Option String) (holds : Q w) :
    Coop sha256 known k call (attempts sha256 (recordOf sha256 bytes) (n + 1) last)
      (fun r w => (Q w ∧ Settled (sha256 bytes) w) ∧ r = .ok ()) w := by
  induction n generalizing w last with
  | zero =>
    refine Program.Cooperates.bind (Rely.refl k) ((read_coop reads 0 holds).mono fun r w done => ?_)
    obtain ⟨holds, ⟨rfl, settled⟩ | ⟨more, -⟩⟩ := done
    · exact Coop.pure reads.settled ⟨holds, settled⟩ fun w held => ⟨held, rfl⟩
    · exact absurd rfl more
  | succ n ih =>
    refine Program.Cooperates.bind (Rely.refl k)
      ((read_coop reads (n + 1) holds).mono fun r w done => ?_)
    obtain ⟨holds, ⟨rfl, settled⟩ | ⟨-, e, rfl⟩⟩ := done
    · exact Coop.pure reads.settled ⟨holds, settled⟩ fun w held => ⟨held, rfl⟩
    · exact ih (some e) holds

theorem verifyDuplicate_coop {bytes : Bytes} (reads : Reads sha256 known k call bytes Q)
    (holds : Q w) :
    Coop sha256 known k call (verifyDuplicate sha256 (recordOf sha256 bytes))
      (fun r w => (Q w ∧ Settled (sha256 bytes) w) ∧ r = .ok ()) w :=
  attempts_coop reads 3 none holds

/-- A read of any record keeps what its caller relies on. -/
theorem read_any_coop (stable : Stable sha256 known k Q) (record : QuarantineRecord) (retries : Nat)
    (holds : Q w) : Coop sha256 known k call (read sha256 record retries) (fun _ w => Q w) w := by
  apply Coop.check
  · intro _
    apply Coop.bind
    have inspected : Coop sha256 known k call (inspectItem (.item record.digest) retries)
        (fun _ w => Q w) w := by
      apply Coop.query stable holds (fun _ _ => rfl)
      intro c w holds _
      generalize (exec (.metadata (.item record.digest) retries) c w).2 = found
      cases found with
      | none => exact Coop.raise stable holds fun _ holds => holds
      | some metadata =>
        apply Coop.check
        · intro _
          exact Coop.pure stable holds fun _ holds => holds
        · exact fun _ w' changed => stable w w' changed holds
    refine inspected.mono fun r w holds => ?_
    cases r with
    | error e => exact fun w' changed => stable w w' changed holds
    | ok metadata =>
      apply Coop.check
      · intro _
        apply Coop.query stable holds (fun _ _ => rfl)
        intro c w holds _
        generalize (exec (.openFile (.item record.digest)) c w).2 = opened
        cases opened with
        | none => exact Coop.raise stable holds fun _ holds => holds
        | some file =>
          apply Coop.query stable holds (fun _ _ => rfl)
          intro c w holds _
          apply Coop.check
          · intro _
            apply Coop.check
            · intro _
              exact Coop.pure stable holds fun _ holds => holds
            · exact fun _ w' changed => stable w w' changed holds
          · exact fun _ w' changed => stable w w' changed holds
      · exact fun _ w' changed => stable w w' changed holds
  · exact fun _ w' changed => stable w w' changed holds

/-! ## Writing -/

theorem Private.other {file : Nat} {content : Bytes}
    (held : Private sha256 known k file content w) {n : Name} {i : Nat} (isEntry : (n, i) ∈ w.names)
    (notMine : n ≠ .temp k) : i ≠ file := by
  rintro rfl
  cases n with
  | item d => exact held.unlinked d isEntry
  | temp t => exact notMine (congrArg Name.temp (held.sound.temps t k i isEntry held.mine))

/-- A `write` to the temporary file before it is linked. -/
theorem write_guar {file : Nat} {content bytes : Bytes} (c : Nat)
    (held : Private sha256 known k file content w) :
    Guar sha256 known k w (exec (.write file bytes) c w).1 where
  sound sound := ⟨sound.distinct, sound.bounded, sound.temps, sound.items, fun d i isItem => by
    have other := held.other isItem fun same => by cases same
    have same : (exec (.write file bytes) c w).1.contents i = w.contents i :=
      Function.update_of_ne other _ _
    rw [same]
    exact sound.stored d i isItem⟩
  temps _ _ _ := Iff.rfl
  items _ _ h := h
  made _ _ h := .inl h
  kept _ n i isEntry notMine := Function.update_of_ne (held.other isEntry notMine) _ _
  linked _ _ _ _ _ h := h

theorem write_private {file : Nat} {content bytes : Bytes} (c : Nat)
    (held : Private sha256 known k file content w) :
    Private sha256 known k file (content ++ bytes.take (written c bytes))
      (exec (.write file bytes) c w).1 := by
  refine ⟨(write_guar c held).sound held.sound, held.mine, held.unlinked, ?_⟩
  show Function.update w.contents file _ file = _
  rw [Function.update_self, held.content]

theorem writeAll_coop {file : Nat} {content bytes : Bytes} {fuel : Nat} (enough : bytes.length ≤ fuel)
    (held : Private sha256 known k file content w) :
    Coop sha256 known k call (writeAll file fuel bytes)
      (fun r w => r = .ok () ∧ Private sha256 known k file (content ++ bytes) w) w := by
  induction fuel generalizing content bytes w with
  | zero =>
    obtain rfl := List.length_eq_zero_iff.mp (Nat.le_zero.mp enough)
    exact Coop.pure private_stable held fun w held => ⟨rfl, by simpa using held⟩
  | succ fuel ih =>
    rw [writeAll]
    by_cases empty : bytes = []
    · rw [if_pos empty]
      subst empty
      exact Coop.pure private_stable held fun w held => ⟨rfl, by simpa using held⟩
    · rw [if_neg empty]
      refine Coop.request private_stable held (fun c w held => write_guar c held)
        fun c w held _ => ?_
      have some' := List.length_pos_iff.mpr empty
      have shorter : (bytes.drop (written c bytes)).length ≤ fuel := by
        rw [List.length_drop, written]
        omega
      have grown : Private sha256 known k file (content ++ bytes.take (written c bytes))
          (exec (.write file bytes) c w).1 := write_private c held
      have next := ih shorter grown
      rwa [List.append_assoc, List.take_append_drop] at next

theorem mem_append_singleton {names : List (Name × Nat)} {n n' : Name} {i i' : Nat} :
    (n, i) ∈ names ++ [(n', i')] ↔ (n, i) ∈ names ∨ n = n' ∧ i = i' := by
  simp

/-- `create_new` of a name that is not there. -/
theorem create_coop {f : Option Nat → Process β} {post : Except String β → Vault → Prop}
    (absent : Absent sha256 known k w)
    (rest : ∀ file w, Private sha256 known k file [] w → Coop sha256 known k call (f (some file)) post w) :
    Coop sha256 known k call (request (.create (.temp k)) >>= f) post w := by
  have created (c : Nat) (w : Vault) (absent : Absent sha256 known k w) :
      exec (.create (.temp k)) c w = (⟨w.names ++ [(.temp k, w.next)],
        Function.update w.contents w.next [], w.next + 1⟩, some w.next) := by
    simp only [exec, lookup_eq_none.mpr absent.none]
    rfl
  have guar (c : Nat) (w : Vault) (absent : Absent sha256 known k w) :
      Guar sha256 known k w (exec (.create (.temp k)) c w).1 := by
    have old {n : Name} {i : Nat} (sound : Sound sha256 known w) (isEntry : (n, i) ∈ w.names) :
        i ≠ w.next := by
      have := sound.bounded n i isEntry
      omega
    rw [created c w absent]
    refine ⟨fun sound => ⟨?_, ?_, ?_, ?_, ?_⟩, ?_, ?_, ?_, ?_, ?_⟩
    · rw [List.map_append, List.nodup_append]
      refine ⟨sound.distinct, by simp, ?_⟩
      rintro n isName n' isNew rfl
      obtain ⟨⟨n, i⟩, isEntry, rfl⟩ := List.mem_map.mp isName
      obtain rfl : n = .temp k := by simpa using isNew
      exact absent.none i isEntry
    · intro n i isEntry
      rcases mem_append_singleton.mp isEntry with isEntry | ⟨-, rfl⟩
      · exact Nat.lt_succ_of_lt (sound.bounded n i isEntry)
      · exact Nat.lt_succ_self _
    · intro t t' i isTemp isTemp'
      rcases mem_append_singleton.mp isTemp with isTemp | ⟨same, rfl⟩
      · rcases mem_append_singleton.mp isTemp' with isTemp' | ⟨-, rfl⟩
        · exact sound.temps t t' i isTemp isTemp'
        · exact absurd rfl (old sound isTemp)
      · rcases mem_append_singleton.mp isTemp' with isTemp' | ⟨same', -⟩
        · exact absurd rfl (old sound isTemp')
        · rw [Name.temp.inj same, Name.temp.inj same']
    · intro d d' i isItem isItem'
      have isItem := (mem_append_singleton.mp isItem).resolve_right fun h => by cases h.1
      have isItem' := (mem_append_singleton.mp isItem').resolve_right fun h => by cases h.1
      exact sound.items d d' i isItem isItem'
    · intro d i isItem
      have isItem := (mem_append_singleton.mp isItem).resolve_right fun h => by cases h.1
      simp only [Function.update_of_ne (old sound isItem)]
      exact sound.stored d i isItem
    · intro t other i
      rw [mem_append_singleton]
      constructor
      · rintro (isTemp | ⟨same, -⟩)
        · exact isTemp
        · exact absurd (Name.temp.inj same) other
      · exact .inl
    · exact fun d i isItem => mem_append_singleton.mpr (.inl isItem)
    · exact fun d i isItem => .inl
        ((mem_append_singleton.mp isItem).resolve_right fun h => by cases h.1)
    · exact fun sound n i isEntry _ => Function.update_of_ne (old sound isEntry) _ _
    · intro sound d t i isItem isTemp
      rcases mem_append_singleton.mp isTemp with isTemp | ⟨-, rfl⟩
      · exact isTemp
      · exact absurd rfl (old sound isItem)
  refine Coop.request absent_stable absent guar fun c w absent _ => ?_
  have kept := guar c w absent
  rw [created c w absent] at kept ⊢
  refine rest w.next _ ⟨kept.sound absent.sound, mem_append_singleton.mpr (.inr ⟨rfl, rfl⟩), ?_, ?_⟩
  · intro d isItem
    have isItem := (mem_append_singleton.mp isItem).resolve_right fun h => by cases h.1
    exact absurd (absent.sound.bounded _ _ isItem) (Nat.lt_irrefl _)
  · exact Function.update_self _ _ _

/-! ## Publishing -/

/-- The temporary file becomes an item. -/
theorem link_guar {file : Nat} {bytes : Bytes} (isKnown : known bytes)
    (small : bytes.length ≤ maxItemLen) (held : Private sha256 known k file bytes w)
    (fresh : ¬Present (sha256 bytes) w) :
    Guar sha256 known k w
      { w with names := w.names ++ [(Name.item (sha256 bytes), file)] } where
  sound sound := by
    refine ⟨?_, ?_, ?_, ?_, ?_⟩
    · rw [List.map_append, List.nodup_append]
      refine ⟨sound.distinct, by simp, ?_⟩
      rintro n isName n' isNew rfl
      obtain ⟨⟨n, i⟩, isEntry, rfl⟩ := List.mem_map.mp isName
      obtain rfl : n = .item (sha256 bytes) := by simpa using isNew
      exact fresh ⟨i, isEntry⟩
    · intro n i isEntry
      rcases mem_append_singleton.mp isEntry with isEntry | ⟨-, rfl⟩
      · exact sound.bounded n i isEntry
      · exact sound.bounded _ _ held.mine
    · intro t t' i isTemp isTemp'
      have isTemp := (mem_append_singleton.mp isTemp).resolve_right fun h => by cases h.1
      have isTemp' := (mem_append_singleton.mp isTemp').resolve_right fun h => by cases h.1
      exact sound.temps t t' i isTemp isTemp'
    · intro d d' i isItem isItem'
      rcases mem_append_singleton.mp isItem with isItem | ⟨same, rfl⟩
      · rcases mem_append_singleton.mp isItem' with isItem' | ⟨-, isFile⟩
        · exact sound.items d d' i isItem isItem'
        · rw [isFile] at isItem
          exact absurd isItem (held.unlinked d)
      · rcases mem_append_singleton.mp isItem' with isItem' | ⟨same', -⟩
        · exact absurd isItem' (held.unlinked d')
        · rw [Name.item.inj same, Name.item.inj same']
    · intro d i isItem
      rcases mem_append_singleton.mp isItem with isItem | ⟨same, rfl⟩
      · exact sound.stored d i isItem
      · obtain rfl := Name.item.inj same
        show known (w.contents i) ∧ (w.contents i).length ≤ maxItemLen ∧
          sha256 (w.contents i) = sha256 bytes
        rw [held.content]
        exact ⟨isKnown, small, rfl⟩
  temps t _ i := by
    rw [mem_append_singleton]
    constructor
    · rintro (isTemp | ⟨same, -⟩)
      · exact isTemp
      · cases same
    · exact .inl
  items d i isItem := mem_append_singleton.mpr (.inl isItem)
  made d i isItem := by
    rcases mem_append_singleton.mp isItem with isItem | ⟨-, rfl⟩
    · exact .inl isItem
    · exact .inr held.mine
  kept _ _ _ _ _ := rfl
  linked _ d t i _ isTemp :=
    (mem_append_singleton.mp isTemp).resolve_right fun h => by cases h.1

/-- `hard_link` of the written temporary file: afterwards there is an item, whoever linked it. -/
theorem link_coop {file : Nat} {bytes : Bytes} {f : LinkResult → Process β}
    {post : Except String β → Vault → Prop} (isKnown : known bytes)
    (small : bytes.length ≤ maxItemLen) (held : Private sha256 known k file bytes w)
    (won : ∀ w, Published sha256 known k (sha256 bytes) w →
      Coop sha256 known k call (f .ok) post w)
    (lost : ∀ w, Overtaken sha256 known k (sha256 bytes) w →
      Coop sha256 known k call (f .alreadyExists) post w) :
    Coop sha256 known k call (request (.hardLink (.temp k) (.item (sha256 bytes))) >>= f) post w := by
  have there (c : Nat) (w : Vault) (held : Private sha256 known k file bytes w)
      (present : Present (sha256 bytes) w) :
      exec (.hardLink (.temp k) (.item (sha256 bytes))) c w = (w, .alreadyExists) := by
    obtain ⟨i, isItem⟩ := present
    simp only [exec, (lookup_eq_some held.sound).mpr held.mine,
      (lookup_eq_some held.sound).mpr isItem]
  have linked (c : Nat) (w : Vault) (held : Private sha256 known k file bytes w)
      (fresh : ¬Present (sha256 bytes) w) :
      exec (.hardLink (.temp k) (.item (sha256 bytes))) c w =
        ({ w with names := w.names ++ [(Name.item (sha256 bytes), file)] }, .ok) := by
    have free := lookup_eq_none.mpr fun i isItem => fresh ⟨i, isItem⟩
    simp only [exec, (lookup_eq_some held.sound).mpr held.mine, free]
  apply Coop.request private_stable held
  · intro c w held
    by_cases present : Present (sha256 bytes) w
    · rw [there c w held present]
      exact Guar.refl k w
    · rw [linked c w held present]
      exact link_guar isKnown small held present
  · intro c w held _
    by_cases present : Present (sha256 bytes) w
    · rw [there c w held present]
      exact lost w ⟨held.sound, ⟨file, held.mine⟩, present⟩
    · rw [linked c w held present]
      have kept := link_guar isKnown small held present
      refine won _ ⟨kept.sound held.sound, ⟨file, mem_append_singleton.mpr (.inl held.mine)⟩,
        file, mem_append_singleton.mpr (.inr ⟨rfl, rfl⟩), fun t other isTemp => other ?_⟩
      have isTemp := (mem_append_singleton.mp isTemp).resolve_right fun h => by cases h.1
      exact held.sound.temps t k file isTemp held.mine

theorem mem_removed {names : List (Name × Nat)} {n n' : Name} {i : Nat} :
    (n, i) ∈ names.filter (fun entry => entry.1 ≠ n') ↔ (n, i) ∈ names ∧ n ≠ n' := by
  simp

/-- `remove_file` of the temporary file. -/
theorem remove_guar (c : Nat) (w : Vault) :
    Guar sha256 known k w (exec (.removeFile (.temp k)) c w).1 where
  sound sound := by
    refine ⟨?_, ?_, ?_, ?_, ?_⟩
    · exact (List.filter_sublist.map Prod.fst).nodup sound.distinct
    · exact fun n i isEntry => sound.bounded n i (mem_removed.mp isEntry).1
    · exact fun t t' i h h' => sound.temps t t' i (mem_removed.mp h).1 (mem_removed.mp h').1
    · exact fun d d' i h h' => sound.items d d' i (mem_removed.mp h).1 (mem_removed.mp h').1
    · exact fun d i h => sound.stored d i (mem_removed.mp h).1
  temps t other i :=
    ⟨fun h => (mem_removed.mp h).1,
      fun h => mem_removed.mpr ⟨h, fun same => other (Name.temp.inj same)⟩⟩
  items d i h := mem_removed.mpr ⟨h, fun same => by cases same⟩
  made d i h := .inl (mem_removed.mp h).1
  kept _ _ _ _ _ := rfl
  linked _ _ _ _ _ h := (mem_removed.mp h).1

theorem remove_coop {d : Bytes} {f : Bool → Process β} {post : Except String β → Vault → Prop}
    (held : Published sha256 known k d w)
    (rest : ∀ w, Absent sha256 known k w ∧ Settled d w → Coop sha256 known k call (f true) post w) :
    Coop sha256 known k call (request (.removeFile (.temp k)) >>= f) post w := by
  refine Coop.request published_stable held (fun c w _ => remove_guar c w) fun c w held _ => ?_
  obtain ⟨i, isMine⟩ := held.mine
  have removed : (exec (.removeFile (.temp k)) c w).2 = true := by
    simp only [exec, (lookup_eq_some held.sound).mpr isMine]
    rfl
  rw [removed]
  have kept : Guar sha256 known k w (exec (.removeFile (.temp k)) c w).1 := remove_guar c w
  obtain ⟨j, isItem, single⟩ := held.single
  refine rest _ ⟨⟨kept.sound held.sound, fun i isMine => (mem_removed.mp isMine).2 rfl⟩,
    j, kept.items d j isItem, fun t isTemp => ?_⟩
  obtain ⟨isTemp, other⟩ := mem_removed.mp isTemp
  exact single t (fun same => other (congrArg Name.temp same)) isTemp

/-! ## The calls -/

variable {bytes : Bytes}

/-- What a `store` of the bytes relies on when it verifies a duplicate. -/
theorem reads_of_store (stable : Stable sha256 known k Q)
    (sound : ∀ w, Q w → Sound sha256 known w) (present : ∀ w, Q w → Present (sha256 bytes) w)
    (isKnown : known bytes) (small : bytes.length ≤ maxItemLen)
    (apart : ∀ a b, known a → known b → NoCollision sha256 a b) :
    Reads sha256 known k (.store bytes) bytes Q :=
  ⟨stable, sound, present, fun w holds admissible => admissible (present w holds), isKnown, small,
    apart⟩

theorem writeAndPublish_coop (isKnown : known bytes) (small : bytes.length ≤ maxItemLen)
    (apart : ∀ a b, known a → known b → NoCollision sha256 a b) (absent : Absent sha256 known k w) :
    Coop sha256 known k (.store bytes) (writeAndPublish sha256 k bytes (recordOf sha256 bytes))
      (fun r w => Published sha256 known k (sha256 bytes) w ∧ r = .ok ()) w := by
  apply create_coop absent
  intro file w held
  apply Coop.bind
  refine (writeAll_coop (Nat.le_refl _) held).mono fun r w wrote => ?_
  obtain ⟨rfl, held⟩ := wrote
  apply Coop.query private_stable held (fun _ _ => rfl)
  intro c w held _
  apply link_coop isKnown small held
  · intro w held
    apply Coop.query published_stable held (fun _ _ => rfl)
    intro c w held _
    exact Coop.pure published_stable held fun w held => ⟨held, rfl⟩
  · intro w held
    have reads := reads_of_store (overtaken_stable (k := k)) (fun _ held => held.sound)
      (fun _ held => held.present) isKnown small apart
    refine (verifyDuplicate_coop reads held).mono fun r w done => ?_
    obtain ⟨⟨held, i, isItem, single⟩, rfl⟩ := done
    exact ⟨⟨held.sound, held.mine, i, isItem, fun t _ => single t⟩, rfl⟩

theorem publish_coop (isKnown : known bytes) (small : bytes.length ≤ maxItemLen)
    (apart : ∀ a b, known a → known b → NoCollision sha256 a b) (absent : Absent sha256 known k w) :
    Coop sha256 known k (.store bytes) (publish sha256 k bytes (recordOf sha256 bytes))
      (fun r w => (Absent sha256 known k w ∧ Settled (sha256 bytes) w) ∧
        r = .ok (recordOf sha256 bytes)) w := by
  refine Program.Cooperates.bind (Rely.refl k)
    ((writeAndPublish_coop isKnown small apart absent).mono fun r w done => ?_)
  obtain ⟨held, rfl⟩ := done
  apply remove_coop held
  intro w held
  apply Coop.ensure rfl
  apply Coop.query settled_stable held (fun _ _ => rfl)
  intro c w held _
  exact Coop.pure settled_stable held fun w held => ⟨held, rfl⟩

theorem store_coop (isKnown : known bytes) (small : bytes.length ≤ maxItemLen)
    (apart : ∀ a b, known a → known b → NoCollision sha256 a b) (absent : Absent sha256 known k w) :
    Coop sha256 known k (.store bytes) (store sha256 k bytes)
      (fun r w => (Absent sha256 known k w ∧ Settled (sha256 bytes) w) ∧
        r = .ok (recordOf sha256 bytes)) w := by
  apply Coop.ensure (decide_eq_true small)
  apply Coop.query absent_stable absent (fun _ _ => rfl)
  intro c w absent _
  by_cases present : Present (sha256 bytes) w
  · obtain ⟨i, isItem⟩ := present
    have found : (exec (.exists (.item (recordOf sha256 bytes).digest)) c w).2 = true := by
      show (w.lookup (.item (sha256 bytes))).isSome = true
      rw [(lookup_eq_some absent.sound).mpr isItem]
      rfl
    rw [found]
    have stable : Stable sha256 known k
        fun w => Absent sha256 known k w ∧ Present (sha256 bytes) w :=
      absent_stable.and fun _ _ changed held => held.rely changed
    have reads := reads_of_store stable (fun _ held => held.1.sound) (fun _ held => held.2)
      isKnown small apart
    apply Coop.bind
    refine (verifyDuplicate_coop reads ⟨absent, i, isItem⟩).mono fun r w done => ?_
    obtain ⟨⟨⟨absent, -⟩, settled⟩, rfl⟩ := done
    exact Coop.pure settled_stable ⟨absent, settled⟩ fun w held => ⟨held, rfl⟩
  · have free : (exec (.exists (.item (recordOf sha256 bytes).digest)) c w).2 = false := by
      show (w.lookup (.item (sha256 bytes))).isSome = false
      rw [lookup_eq_none.mpr fun i isItem => present ⟨i, isItem⟩]
      rfl
    rw [free]
    exact publish_coop isKnown small apart absent

end Prometheus.Client.Quarantine
