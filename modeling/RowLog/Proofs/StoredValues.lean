import RowLog.Json.Fields
import RowLog.Proofs.Lists
import RowLog.Proofs.WrittenDocuments

/-!
# Stored JSON values

A JSON value is stored as the text of a document. Main statements: a value in which there is no
floating-point number and the members of every object are in order is read back from its text
(`Value.exists_isStoredAs`), and in a value that is read the members are in order
(`Value.ordered_of_ofDocument?`). The whole numbers and the bytes that are stored elsewhere are read
back as well.
-/

namespace RowLog

open Json

namespace Json

/-- Documents that are sound one by one are sound together. -/
theorem areSound_of_forall {limit : Nat} {documents : List Document}
    (each : ∀ document ∈ documents, document.isSound limit = true) :
    Document.areSound limit documents = true := by
  induction documents with
  | nil => rfl
  | cons document rest ih =>
      rw [Document.areSound, each document (by simp),
        ih fun other otherMem => each other (by simp [otherMem])]
      rfl

end Json

namespace Json.Value

def isFloat : Value → Bool
  | .float _ => true
  | _ => false

/-- Whether the members of an object are in ascending order of their names, none of which is
repeated. -/
def hasOrderedMembers : Value → Bool
  | .object members => members.Pairwise fun first second => compare first.1 second.1 = .lt
  | _ => true

mutual

/-- Whether a test holds of a value and of all values inside it. -/
def everywhere (test : Value → Bool) : Value → Bool
  | .array items => test (.array items) && everywhereIn test items
  | .object members => test (.object members) && everywhereUnder test members
  | value => test value

def everywhereIn (test : Value → Bool) : List Value → Bool
  | [] => true
  | item :: rest => everywhere test item && everywhereIn test rest

def everywhereUnder (test : Value → Bool) : List (String × Value) → Bool
  | [] => true
  | (_, value) :: rest => everywhere test value && everywhereUnder test rest

end

mutual

/-- How deep arrays and objects lie within each other in a value. -/
def depth : Value → Nat
  | .array items => depthIn items + 1
  | .object members => depthUnder members + 1
  | _ => 0

def depthIn : List Value → Nat
  | [] => 0
  | item :: rest => max (depth item) (depthIn rest)

def depthUnder : List (String × Value) → Nat
  | [] => 0
  | (_, value) :: rest => max (depth value) (depthUnder rest)

end

theorem everywhereIn_iff {test : Value → Bool} {items : List Value} :
    everywhereIn test items = true ↔ ∀ item ∈ items, everywhere test item = true := by
  induction items with
  | nil => simp [everywhereIn]
  | cons item rest ih => simp [everywhereIn, ih]

theorem everywhereUnder_iff {test : Value → Bool} {members : List (String × Value)} :
    everywhereUnder test members = true ↔
      ∀ member ∈ members, everywhere test member.2 = true := by
  induction members with
  | nil => simp [everywhereUnder]
  | cons member rest ih =>
      rcases member with ⟨name, value⟩
      rw [everywhereUnder, Bool.and_eq_true, ih, List.forall_mem_cons]

theorem depthIn_le_iff {items : List Value} {limit : Nat} :
    depthIn items ≤ limit ↔ ∀ item ∈ items, depth item ≤ limit := by
  induction items with
  | nil => simp [depthIn]
  | cons item rest ih => rw [depthIn, Nat.max_le, ih, List.forall_mem_cons]

theorem depthUnder_le_iff {members : List (String × Value)} {limit : Nat} :
    depthUnder members ≤ limit ↔ ∀ member ∈ members, depth member.2 ≤ limit := by
  induction members with
  | nil => simp [depthUnder]
  | cons member rest ih =>
      rcases member with ⟨name, value⟩
      rw [depthUnder, Nat.max_le, ih, List.forall_mem_cons]

/-- A member whose name comes after all others is added at the end. -/
theorem setMember_of_last {name : String} {value : Value} {members : List (String × Value)}
    (last : ∀ member ∈ members, compare member.1 name = .lt) :
    setMember name value members = members ++ [(name, value)] := by
  induction members with
  | nil => rfl
  | cons member rest ih =>
      rcases member with ⟨other, current⟩
      have after : compare name other = .gt :=
        Std.OrientedCmp.gt_iff_lt.mpr (last (other, current) (by simp))
      have restLast := fun member memberMem => last member (List.mem_cons_of_mem _ memberMem)
      rw [setMember, after, List.cons_append, ih restLast]

section Order

theorem mem_setMember {name : String} {value : Value} {members : List (String × Value)}
    {member : String × Value} (memberMem : member ∈ setMember name value members) :
    member = (name, value) ∨ member ∈ members := by
  induction members with
  | nil => exact .inl (List.mem_singleton.mp memberMem)
  | cons first rest ih =>
      rcases first with ⟨other, current⟩
      rw [setMember] at memberMem
      split at memberMem
      · exact List.mem_cons.mp memberMem
      · rcases List.mem_cons.mp memberMem with same | later
        · exact .inl same
        · exact .inr (List.mem_cons_of_mem _ later)
      · rcases List.mem_cons.mp memberMem with same | later
        · exact .inr (same ▸ List.mem_cons_self)
        · rcases ih later with new | old
          · exact .inl new
          · exact .inr (List.mem_cons_of_mem _ old)

theorem pairwise_setMember {name : String} {value : Value} {members : List (String × Value)}
    (ordered : members.Pairwise fun first second => compare first.1 second.1 = .lt) :
    (setMember name value members).Pairwise fun first second =>
      compare first.1 second.1 = .lt := by
  induction members with
  | nil => exact List.pairwise_singleton _ _
  | cons first rest ih =>
      rcases first with ⟨other, current⟩
      rcases List.pairwise_cons.mp ordered with ⟨least, restOrdered⟩
      rw [setMember]
      split
      · next before =>
          refine List.pairwise_cons.mpr ⟨fun member memberMem => ?_, ordered⟩
          rcases List.mem_cons.mp memberMem with rfl | later
          · exact before
          · exact Std.TransCmp.lt_trans before (least member later)
      · next same =>
          rw [Std.LawfulEqCmp.eq_of_compare same]
          exact List.pairwise_cons.mpr ⟨least, restOrdered⟩
      · next after =>
          refine List.pairwise_cons.mpr ⟨fun member memberMem => ?_, ih restOrdered⟩
          rcases mem_setMember memberMem with rfl | later
          · exact Std.OrientedCmp.gt_iff_lt.mp after
          · exact least member later

theorem ofDocuments?_eq_some {documents : List Document} {values : List Value}
    (read : ofDocuments? documents = some values) :
    List.Forall₂ (fun document value => ofDocument? document = some value) documents values := by
  induction documents generalizing values with
  | nil =>
      rw [ofDocuments?, Option.some.injEq] at read
      exact read ▸ .nil
  | cons document rest ih =>
      rw [ofDocuments?] at read
      split at read
      · next first others firstRead othersRead =>
          exact Option.some.inj read ▸ .cons firstRead (ih othersRead)
      · contradiction

/-- The members that are read are in order, and so are those found before. -/
theorem ordered_of_ofMembers? {documents : List Member} {found members : List (String × Value)}
    {holds : Value → Prop}
    (each : ∀ document ∈ documents, ∀ value, ofDocument? document.2 = some value → holds value)
    (ordered : found.Pairwise fun first second => compare first.1 second.1 = .lt)
    (foundHolds : ∀ member ∈ found, holds member.2)
    (read : ofMembers? found documents = some members) :
    (members.Pairwise fun first second => compare first.1 second.1 = .lt) ∧
      ∀ member ∈ members, holds member.2 := by
  induction documents generalizing found with
  | nil =>
      rw [ofMembers?, Option.some.injEq] at read
      exact read ▸ ⟨ordered, foundHolds⟩
  | cons document rest ih =>
      rcases document with ⟨_ | name, document⟩
      · simp [ofMembers?] at read
      · rw [ofMembers?] at read
        split at read
        · next value valueRead =>
            refine ih (fun other otherMem => each other (by simp [otherMem]))
              (pairwise_setMember ordered) (fun member memberMem => ?_) read
            rcases mem_setMember memberMem with rfl | earlier
            · exact each (some name, document) (by simp) value valueRead
            · exact foundHolds member earlier
        · contradiction

/-- In a value that is read, the members of every object are in order. -/
theorem ordered_of_ofDocument? : ∀ (document : Document) (value : Value),
    ofDocument? document = some value → value.everywhere hasOrderedMembers = true
  | .null, _, read => by
      rw [ofDocument?, Option.some.injEq] at read
      exact read ▸ rfl
  | .bool _, _, read => by
      rw [ofDocument?, Option.some.injEq] at read
      exact read ▸ rfl
  | .number numeral, _, read => by
      rw [ofDocument?, ofNumeral?] at read
      split at read
      · exact Option.some.inj read ▸ rfl
      · rcases Option.map_eq_some_iff.mp read with ⟨number, -, rfl⟩
        rfl
  | .string _, _, read => by
      rw [ofDocument?] at read
      rcases Option.map_eq_some_iff.mp read with ⟨text, -, rfl⟩
      rfl
  | .array documents, _, read => by
      rw [ofDocument?] at read
      rcases Option.map_eq_some_iff.mp read with ⟨items, itemsRead, rfl⟩
      have related := ofDocuments?_eq_some itemsRead
      rw [everywhere, Bool.and_eq_true, everywhereIn_iff]
      refine ⟨rfl, fun item itemMem => ?_⟩
      rcases List.mem_iff_getElem.mp itemMem with ⟨place, lt, rfl⟩
      have sameLength := related.length_eq
      have documentMem : documents[place] ∈ documents := List.getElem_mem (by omega)
      exact ordered_of_ofDocument? documents[place] _ (related.get (by omega) lt)
  | .object documents, _, read => by
      rw [ofDocument?] at read
      rcases Option.map_eq_some_iff.mp read with ⟨members, membersRead, rfl⟩
      have each : ∀ document ∈ documents, ∀ value, ofDocument? document.2 = some value →
          value.everywhere hasOrderedMembers = true :=
        fun document documentMem value valueRead =>
          ordered_of_ofDocument? document.2 value valueRead
      rcases ordered_of_ofMembers? each .nil (by simp) membersRead with ⟨ordered, inside⟩
      rw [everywhere, Bool.and_eq_true, everywhereUnder_iff]
      exact ⟨decide_eq_true ordered, inside⟩
termination_by document => sizeOf document
decreasing_by
  · have := List.sizeOf_lt_of_mem documentMem
    simp only [Document.array.sizeOf_spec]
    omega
  · have := List.sizeOf_lt_of_mem documentMem
    rcases document with ⟨name, document⟩
    simp only [Document.object.sizeOf_spec, Prod.mk.sizeOf_spec] at this ⊢
    omega

end Order

/-- Whether a document, read from the text of a value, lies within a limit and means the value. -/
structure IsStoredAs (limit : Nat) (value : Value) (document : Document) : Prop where
  isTextOf : IsTextOf value.chars document
  isSound : document.isSound limit = true
  ofDocument?_eq : ofDocument? document = some value

/-- Whether a document under a name is that of a member. -/
def IsMemberStoredAs (limit : Nat) (member : String × Value) (stored : Member) : Prop :=
  stored.1 = some member.1 ∧ IsStoredAs limit member.2 stored.2

theorem isStoredAs_array {limit : Nat} {items : List Value} {documents : List Document}
    (stored : List.Forall₂ (IsStoredAs limit) items documents) :
    IsStoredAs (limit + 1) (.array items) (.array documents) where
  isTextOf := by
    rw [chars, itemChars_eq_map]
    apply isTextOf_array
    rw [List.forall₂_map_left_iff]
    exact stored.imp fun _ _ => IsStoredAs.isTextOf
  isSound := by
    have sound : ∀ document ∈ documents, document.isSound limit = true := by
      intro document documentMem
      rcases exists_mem_of_forall₂ stored documentMem with ⟨item, -, isStored⟩
      exact isStored.isSound
    rw [Document.isSound, Nat.add_sub_cancel, areSound_of_forall sound]
    simp
  ofDocument?_eq := by
    have read : ofDocuments? documents = some items := by
      induction stored with
      | nil => rfl
      | cons first _ ih => rw [ofDocuments?, first.ofDocument?_eq, ih]
    rw [ofDocument?, read, Option.map_some]

theorem ofMembers?_of_stored {limit : Nat} {found members : List (String × Value)}
    {documents : List Member}
    (stored : List.Forall₂ (IsMemberStoredAs limit) members documents)
    (ordered : (found ++ members).Pairwise fun first second => compare first.1 second.1 = .lt) :
    ofMembers? found documents = some (found ++ members) := by
  induction stored generalizing found with
  | nil => simp [ofMembers?]
  | @cons member document members documents first _ ih =>
      rcases member with ⟨name, value⟩
      rcases document with ⟨key, document⟩
      rcases first with ⟨rfl, isStored⟩
      have last := fun earlier earlierMem =>
        (List.pairwise_append.mp ordered).2.2 earlier earlierMem (name, value) (by simp)
      have position : found ++ (name, value) :: members = found ++ [(name, value)] ++ members := by
        simp
      rw [position] at ordered ⊢
      rw [ofMembers?, isStored.ofDocument?_eq]
      simp only
      rw [setMember_of_last last, ih ordered]

theorem isStoredAs_object {limit : Nat} {members : List (String × Value)}
    {documents : List Member} (ordered : hasOrderedMembers (.object members) = true)
    (stored : List.Forall₂ (IsMemberStoredAs limit) members documents) :
    IsStoredAs (limit + 1) (.object members) (.object documents) where
  isTextOf := by
    rw [chars, memberChars_eq_map]
    apply isTextOf_object
    rw [List.forall₂_map_left_iff]
    exact stored.imp fun _ _ member => ⟨member.1, member.2.isTextOf⟩
  isSound := by
    have sound : Document.membersAreSound limit documents = true := by
      clear ordered
      induction stored with
      | nil => rfl
      | @cons member document members documents first _ ih =>
          rcases document with ⟨key, document⟩
          rcases first with ⟨rfl, isStored⟩
          rw [Document.membersAreSound, isStored.isSound, ih]
          rfl
    rw [Document.isSound, Nat.add_sub_cancel, sound]
    simp
  ofDocument?_eq := by
    have ordered := of_decide_eq_true ordered
    have read : ofMembers? [] documents = some members := ofMembers?_of_stored stored ordered
    rw [ofDocument?, read, Option.map_some]

theorem isStoredAs_integer (limit : Nat) (number : Integer) :
    IsStoredAs limit (.integer number) (.number (Numeral.ofInt number.value)) := by
  have read : (Numeral.ofInt number.value).integer? = some number.value :=
    integer?_ofInt number.lower number.upper
  refine ⟨isTextOf_intChars number.value, ?_, ?_⟩
  · simp [Document.isSound, read]
  · simp [ofDocument?, ofNumeral?, read, Integer.ofInt?, number.lower, number.upper]

/-- A value without floating-point numbers is stored as some document. -/
theorem exists_isStoredAs : ∀ (value : Value) (limit : Nat),
    value.everywhere (fun inside => !inside.isFloat) = true →
    value.everywhere hasOrderedMembers = true → value.depth ≤ limit →
    ∃ document, IsStoredAs limit value document
  | .null, _, _, _, _ => ⟨.null, isTextOf_null, rfl, rfl⟩
  | .bool true, _, _, _, _ => ⟨.bool true, isTextOf_true, rfl, rfl⟩
  | .bool false, _, _, _, _ => ⟨.bool false, isTextOf_false, rfl, rfl⟩
  | .integer number, limit, _, _, _ => ⟨_, isStoredAs_integer limit number⟩
  | .float number, _, noFloat, _, _ => by
      simp [everywhere, isFloat] at noFloat
  | .string text, _, _, _, _ => ⟨.string (some text), isTextOf_stringChars text, rfl, rfl⟩
  | .array items, 0, _, _, shallow => by
      simp [depth] at shallow
  | .array items, limit + 1, noFloat, ordered, shallow => by
      simp only [everywhere, Bool.and_eq_true, everywhereIn_iff] at noFloat ordered
      rw [depth, Nat.add_le_add_iff_right, depthIn_le_iff] at shallow
      have each : ∀ item ∈ items, ∃ document, IsStoredAs limit item document :=
        fun item itemMem => exists_isStoredAs item limit (noFloat.2 item itemMem)
          (ordered.2 item itemMem) (shallow item itemMem)
      rcases exists_forall₂ each with ⟨documents, stored⟩
      exact ⟨.array documents, isStoredAs_array stored⟩
  | .object members, 0, _, _, shallow => by
      simp [depth] at shallow
  | .object members, limit + 1, noFloat, ordered, shallow => by
      simp only [everywhere, Bool.and_eq_true, everywhereUnder_iff] at noFloat ordered
      rw [depth, Nat.add_le_add_iff_right, depthUnder_le_iff] at shallow
      have each : ∀ member ∈ members, ∃ stored, IsMemberStoredAs limit member stored := by
        intro member memberMem
        rcases exists_isStoredAs member.2 limit (noFloat.2 member memberMem)
          (ordered.2 member memberMem) (shallow member memberMem) with ⟨document, isStored⟩
        exact ⟨(some member.1, document), rfl, isStored⟩
      rcases exists_forall₂ each with ⟨documents, stored⟩
      exact ⟨.object documents, isStoredAs_object ordered.1 stored⟩
termination_by value => sizeOf value
decreasing_by
  · have := List.sizeOf_lt_of_mem itemMem
    simp only [array.sizeOf_spec]
    omega
  · have := List.sizeOf_lt_of_mem memberMem
    rcases member with ⟨name, value⟩
    simp only [object.sizeOf_spec, Prod.mk.sizeOf_spec] at this ⊢
    omega

end Json.Value

namespace Json

section Contents

theorem int64?_ofInt (value : Int64) :
    (Document.number (Numeral.ofInt value.toInt)).int64? = some value := by
  have lower := Int64.le_toInt value
  have upper := Int64.toInt_lt value
  have read : (Numeral.ofInt value.toInt).integer? = some value.toInt :=
    integer?_ofInt (by omega) (by omega)
  rw [Document.int64?, Document.integer?, read]
  simp only [Option.bind_eq_bind, Option.bind_some]
  rw [if_pos (by omega), Int64.ofInt_toInt]

theorem nat?_ofInt {value : Nat} (upper : value < 0x10000000000000000) :
    (Document.number (Numeral.ofInt value)).nat? = some value := by
  have read : (Numeral.ofInt value).integer? = some (value : Int) :=
    integer?_ofInt (by omega) (by omega)
  rw [Document.nat?, Document.integer?, read]
  simp

theorem uint64?_ofInt (value : UInt64) :
    (Document.number (Numeral.ofInt value.toNat)).uint64? = some value := by
  rw [Document.uint64?, nat?_ofInt value.toNat_lt, Option.map_some]
  simp

theorem byte?_ofInt (value : UInt8) :
    (Document.number (Numeral.ofInt value.toNat)).byte? = some value := by
  have small := value.toNat_lt
  rw [Document.byte?, nat?_ofInt (by omega)]
  simp only [Option.bind_eq_bind, Option.bind_some]
  rw [if_pos small]
  simp

/-- The document of a list of bytes. -/
def bytesDocument (bytes : List UInt8) : Document :=
  .array (bytes.map fun byte => .number (Numeral.ofInt byte.toNat))

theorem isTextOf_bytesDocument (bytes : List UInt8) :
    IsTextOf (arrayChars (bytes.map fun byte => Nat.toDigits 10 byte.toNat))
      (bytesDocument bytes) :=
  isTextOf_array_map fun byte _ => isTextOf_intChars byte.toNat

theorem bytes?_bytesDocument (bytes : List UInt8) :
    (bytesDocument bytes).bytes? = some bytes :=
  mapM_map_eq_some byte?_ofInt bytes

end Contents

end Json

end RowLog
