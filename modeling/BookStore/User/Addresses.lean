import BookStore.Async.Outcomes
import BookStore.Async.Sequential
import BookStore.Catalog.Tables
import BookStore.Tables

/-!
# The addresses of a user

`UserAddressRepository`: creating, editing and deleting addresses and choosing the default
one.  Three of the four functions are transactions: when they throw, nothing of them is kept.

`OneDefault` is what the calls keep for every user, whichever of them fail.
-/

namespace BookStore
namespace UserAddresses

open Async Program

/-- `USER_ADDRESS_NOT_FOUND` -/
def userAddressNotFound : String := "Không tìm thấy địa chỉ người dùng"

inductive AddressFailure
  | notFound (message : String)
  | database
  deriving DecidableEq, Repr

inductive AddressType
  | home
  | work
  | other
  deriving DecidableEq, Repr

/-- The value of the enumeration with this name -/
def AddressType.ofName (name : String) : Option AddressType :=
  if name = "HOME" then some .home
  else if name = "WORK" then some .work
  else if name = "OTHER" then some .other
  else none

/-- The columns that a user fills in -/
structure AddressText where
  recipientName : String
  phoneNumber : String
  addressDetail : String
  ward : String
  district : String
  city : String
  deriving DecidableEq

/-- `user_addresses` -/
structure UserAddressRow extends AddressText where
  id : Nat
  userId : Nat
  addressType : AddressType
  isDefault : Option Bool
  createdAt : Nat
  deletedAt : Option Nat
  deriving DecidableEq

instance : Keyed UserAddressRow := ⟨UserAddressRow.id⟩

structure AddressDb where
  users : List Nat
  addresses : Table UserAddressRow
  now : Nat

/-- `CreateUserAddressRequestDto` -/
structure CreateUserAddressRequestDto extends AddressText where
  addressType : Option String
  deriving DecidableEq

/-- `UpdateUserAddressRequestDto` -/
structure UpdateUserAddressRequestDto where
  addressType : Option String
  recipientName : Option String
  phoneNumber : Option String
  addressDetail : Option String
  ward : Option String
  district : Option String
  city : Option String
  deriving DecidableEq

/-- The columns of an update; `undefined` is `none`. -/
structure AddressUpdate where
  body : UpdateUserAddressRequestDto
  isDefault : Option Bool
  deletedAt : Option Nat
  deriving DecidableEq

/-- No text is changed. -/
def sameText : UpdateUserAddressRequestDto :=
  ⟨none, none, none, none, none, none, none⟩

def AddressUpdate.apply (data : AddressUpdate) (a : UserAddressRow) : UserAddressRow :=
  { a with
    addressType := (data.body.addressType.bind AddressType.ofName).getD a.addressType
    recipientName := data.body.recipientName.getD a.recipientName
    phoneNumber := data.body.phoneNumber.getD a.phoneNumber
    addressDetail := data.body.addressDetail.getD a.addressDetail
    ward := data.body.ward.getD a.ward
    district := data.body.district.getD a.district
    city := data.body.city.getD a.city
    isDefault := data.isDefault.or a.isDefault
    deletedAt := data.deletedAt.or a.deletedAt }

theorem key_apply (data : AddressUpdate) (a : UserAddressRow) : key (data.apply a) = key a := rfl

/-- The statements -/
inductive AddressStmt
  /-- `count` of the addresses that are not deleted -/
  | countActive (userId : Nat)
  | create (userId : Nat) (body : CreateUserAddressRequestDto) (isDefault : Bool)
  /-- `findFirst` by id and user -/
  | findActive (id userId : Nat)
  /-- `findFirst` by user, newest first -/
  | findNewestActive (userId : Nat)
  /-- `updateMany` with `isDefault: false` -/
  | clearDefaults (userId : Nat)
  | update (id : Nat) (data : AddressUpdate)
  /-- `new Date()` -/
  | newDate
  deriving DecidableEq

/-- The answer of a statement. -/
abbrev AddressResponse : AddressStmt → Type
  | .countActive _ => Nat
  | .create _ _ _ => UserAddressRow
  | .findActive _ _ => Option UserAddressRow
  | .findNewestActive _ => Option UserAddressRow
  | .clearDefaults _ => Unit
  | .update _ _ => UserAddressRow
  | .newDate => Nat

/-- An address of the user that is not deleted -/
def UserAddressRow.activeOf (a : UserAddressRow) (userId : Nat) : Bool :=
  decide (a.userId = userId) && a.deletedAt.isNone

/-- `[{ createdAt: 'desc' }, { id: 'desc' }]` -/
def newerAddress (a b : UserAddressRow) : Bool :=
  decide (b.createdAt < a.createdAt) ||
    decide (a.createdAt = b.createdAt) && decide (b.id < a.id)

def AddressDb.activeAddresses (db : AddressDb) (userId : Nat) : List UserAddressRow :=
  db.addresses.filter fun a => a.activeOf userId

/-- The row that `create` inserts -/
def newAddressRow (userId : Nat) (body : CreateUserAddressRequestDto) (addressType : AddressType)
    (isDefault : Bool) (now id : Nat) : UserAddressRow where
  toAddressText := body.toAddressText
  id := id
  userId := userId
  addressType := addressType
  isDefault := some isDefault
  createdAt := now
  deletedAt := none

theorem key_newAddressRow (userId : Nat) (body : CreateUserAddressRequestDto)
    (addressType : AddressType) (isDefault : Bool) (now n : Nat) :
    key (newAddressRow userId body addressType isDefault now n) = n := rfl

def clearDefault (a : UserAddressRow) : UserAddressRow :=
  { a with isDefault := some false }

theorem key_clearDefault (a : UserAddressRow) : key (clearDefault a) = key a := rfl

/-- A name that is no value of the enumeration is refused; without one the default is written. -/
def addressTypeOf : Option String → Option AddressType
  | none => some .home
  | some name => AddressType.ofName name

/-- The effect and the answer of a statement. -/
def addressExec : (s : AddressStmt) → AddressDb →
    Except AddressFailure (AddressDb × AddressResponse s)
  | .countActive userId, db => .ok (db, (db.activeAddresses userId).length)
  | .create userId body isDefault, db =>
      match addressTypeOf body.addressType with
      | none => .error .database
      | some addressType =>
          if userId ∈ db.users then
            let row := newAddressRow userId body addressType isDefault db.now
            .ok ({ db with
              addresses := db.addresses.insert row
                (key_newAddressRow userId body addressType isDefault db.now) },
              row db.addresses.next)
          else .error .database
  | .findActive id userId, db =>
      .ok (db, db.addresses.findFirst fun a => decide (a.id = id) && a.activeOf userId)
  | .findNewestActive userId, db =>
      .ok (db, (orderBy newerAddress (db.activeAddresses userId)).head?)
  | .clearDefaults userId, db =>
      .ok ({ db with
        addresses := db.addresses.updateWhere (fun a => a.activeOf userId) clearDefault
          key_clearDefault }, ())
  | .update id data, db =>
      match db.addresses.find id with
      | none => .error .database
      | some a =>
          if (data.body.addressType.map AddressType.ofName) = some none then .error .database
          else .ok ({ db with
            addresses := db.addresses.update id data.apply (key_apply data) }, data.apply a)
  | .newDate, db => .ok (db, db.now)

/-! ### `UserAddressRepository` -/

/-- A function of the repository -/
abbrev AddressService := Program AddressStmt AddressResponse AddressFailure

abbrev addressQuery (s : AddressStmt) : AddressService (AddressResponse s) :=
  await s

/-- What a call answers: the id of the address -/
abbrev AddressAnswer := Nat

def createUserAddressByUserId (userId : Nat) (body : CreateUserAddressRequestDto) :
    AddressService AddressAnswer := do
  let activeCount : Nat ← addressQuery (.countActive userId)
  let row : UserAddressRow ← addressQuery (.create userId body (decide (activeCount = 0)))
  ret row.id

def updateUserAddressByIdAndUserId (id userId : Nat) (body : UpdateUserAddressRequestDto) :
    AddressService AddressAnswer := do
  let found : Option UserAddressRow ← addressQuery (.findActive id userId)
  match found with
  | none => raise (.notFound userAddressNotFound)
  | some _ => do
      let row : UserAddressRow ← addressQuery (.update id ⟨body, none, none⟩)
      ret row.id

def setDefaultByIdAndUserId (id userId : Nat) : AddressService AddressAnswer := do
  let target : Option UserAddressRow ← addressQuery (.findActive id userId)
  match target with
  | none => raise (.notFound userAddressNotFound)
  | some target => do
      addressQuery (.clearDefaults userId)
      let row : UserAddressRow ← addressQuery (.update target.id ⟨sameText, some true, none⟩)
      ret row.id

/-- The newest address left becomes the default. -/
def electDefault (userId : Nat) : AddressService Unit := do
  let newestActive : Option UserAddressRow ← addressQuery (.findNewestActive userId)
  match newestActive with
  | none => ret ()
  | some newestActive => do
      addressQuery (.clearDefaults userId)
      let _ ← addressQuery (.update newestActive.id ⟨sameText, some true, none⟩)
      ret ()

def softDeleteByIdAndUserId (id userId : Nat) : AddressService AddressAnswer := do
  let target : Option UserAddressRow ← addressQuery (.findActive id userId)
  match target with
  | none => raise (.notFound userAddressNotFound)
  | some target => do
      let now : Nat ← addressQuery .newDate
      let _ ← addressQuery (.update target.id ⟨sameText, some false, some now⟩)
      if target.isDefault = some true then electDefault userId else ret ()
      ret target.id

/-! ### Calls in a serial order -/

inductive AddressCall
  | create (userId : Nat) (body : CreateUserAddressRequestDto)
  | update (id userId : Nat) (body : UpdateUserAddressRequestDto)
  | setDefault (id userId : Nat)
  | softDelete (id userId : Nat)
  deriving DecidableEq

namespace AddressCall

def userId : AddressCall → Nat
  | .create userId _ => userId
  | .update _ userId _ => userId
  | .setDefault _ userId => userId
  | .softDelete _ userId => userId

def service : AddressCall → AddressService AddressAnswer
  | .create userId body => createUserAddressByUserId userId body
  | .update id userId body => updateUserAddressByIdAndUserId id userId body
  | .setDefault id userId => setDefaultByIdAndUserId id userId
  | .softDelete id userId => softDeleteByIdAndUserId id userId

/-- `$transaction` -/
def transactional : AddressCall → Bool
  | .update _ _ _ => false
  | _ => true

end AddressCall

/-- A transaction that throws is rolled back. -/
def commit (call : AddressCall) (before after : AddressDb)
    (x : Except AddressFailure AddressAnswer) : AddressDb :=
  match x with
  | .ok _ => after
  | .error _ => if call.transactional then before else after

/-- A call with its result, or time that passes -/
inductive AddressEvent
  | call (call : AddressCall) (x : Except AddressFailure AddressAnswer)
  | tick (ms : Nat)

/-- A call is executed to its end; the database may refuse any of its statements. -/
inductive AddressStep : AddressDb → AddressEvent → AddressDb → Prop
  | call
      {call : AddressCall} {db after : AddressDb} {x : Except AddressFailure AddressAnswer}
      (faults : AddressStmt → Outcome)
      (hfaults : ∀ s, faults s ≠ .lost)
      (hends : call.service.Ends addressExec .database faults db after x) :
      AddressStep db (.call call x) (commit call db after x)
  | tick
      (db : AddressDb) (ms : Nat) :
      AddressStep db (.tick ms) { db with now := db.now + ms }

/-! ### One default -/

def AddressDb.addressesOf (db : AddressDb) (userId : Nat) : List UserAddressRow :=
  db.addresses.filter fun a => decide (a.userId = userId)

/-- The addresses of a user: one default, none among the deleted. -/
structure OneDefault (db : AddressDb) (userId : Nat) : Prop where
  default : db.activeAddresses userId ≠ [] →
    ∃! d, d ∈ db.activeAddresses userId ∧ d.isDefault = some true
  deleted : ∀ a, a ∈ db.addressesOf userId → a.deletedAt ≠ none → a.isDefault ≠ some true

/-- The default address is the newest one. -/
def NewestDefault (db : AddressDb) (userId : Nat) : Prop :=
  ∃ d, d ∈ db.activeAddresses userId ∧ d.isDefault = some true ∧
    ∀ a, a ∈ db.activeAddresses userId → newerAddress a d = false

section Rows

variable {db db' after : AddressDb} {userId other id : Nat} {a d : UserAddressRow}

theorem activeOf_iff : a.activeOf userId = true ↔ a.userId = userId ∧ a.deletedAt = none := by
  simp [UserAddressRow.activeOf]

theorem mem_activeAddresses :
    a ∈ db.activeAddresses userId ↔
      a ∈ db.addresses.rows ∧ a.userId = userId ∧ a.deletedAt = none := by
  rw [AddressDb.activeAddresses, Table.filter, List.mem_filter, activeOf_iff]

theorem mem_addressesOf :
    a ∈ db.addressesOf userId ↔ a ∈ db.addresses.rows ∧ a.userId = userId := by
  rw [AddressDb.addressesOf, Table.filter, List.mem_filter, decide_eq_true_eq]

theorem eq_of_id
    (ha : a ∈ db.addresses.rows) (hd : d ∈ db.addresses.rows) (h : a.id = d.id) : a = d :=
  List.inj_on_of_nodup_map db.addresses.nodup ha hd h

/-- The rows of other users are not touched. -/
theorem addressesOf_of_map
    {f : UserAddressRow → UserAddressRow}
    (hrows : db'.addresses.rows = db.addresses.rows.map f)
    (huser : ∀ a, (f a).userId = a.userId)
    (hkept : ∀ a, a ∈ db.addresses.rows → a.userId = other → f a = a) :
    db'.addressesOf other = db.addressesOf other := by
  simp only [AddressDb.addressesOf, Table.filter, hrows, List.filter_map, Function.comp_def, huser]
  refine (List.map_congr_left fun a ha => ?_).trans (List.map_id _)
  obtain ⟨hmem, hof⟩ := List.mem_filter.mp ha
  exact hkept a hmem (of_decide_eq_true hof)

/-- What is read of the rows to say which one is the default -/
theorem OneDefault.of_map
    {f : UserAddressRow → UserAddressRow}
    (h : OneDefault db userId)
    (hrows : db'.addresses.rows = db.addresses.rows.map f)
    (hf : ∀ a, (f a).userId = a.userId ∧ (f a).deletedAt = a.deletedAt ∧
      (f a).isDefault = a.isDefault) :
    OneDefault db' userId := by
  have hactive : db'.activeAddresses userId = (db.activeAddresses userId).map f := by
    simp only [AddressDb.activeAddresses, Table.filter, hrows, List.filter_map,
      Function.comp_def, UserAddressRow.activeOf, hf]
  constructor
  · intro hsome
    rw [hactive] at hsome ⊢
    obtain ⟨d, ⟨hd, hdefault⟩, hunique⟩ := h.default fun hnil => hsome (by rw [hnil]; rfl)
    refine ⟨f d, ⟨List.mem_map_of_mem hd, (hf d).2.2.trans hdefault⟩, ?_⟩
    rintro _ ⟨ha, hdefault'⟩
    obtain ⟨a, hmem, rfl⟩ := List.mem_map.mp ha
    rw [hunique a ⟨hmem, (hf a).2.2 ▸ hdefault'⟩]
  · intro a' ha' hdeleted
    rw [mem_addressesOf, hrows] at ha'
    obtain ⟨a, ha, rfl⟩ := List.mem_map.mp ha'.1
    rw [(hf a).2.2]
    exact h.deleted a (mem_addressesOf.mpr ⟨ha, (hf a).1 ▸ ha'.2⟩) ((hf a).2.1 ▸ hdeleted)

/-! ### Electing a default -/

/-- A row after `clearDefaults` and the update that sets the default -/
def elected (userId id : Nat) (a : UserAddressRow) : UserAddressRow :=
  if a.id = id then { a with isDefault := some true }
  else if a.activeOf userId then clearDefault a else a

theorem elected_userId : (elected userId id a).userId = a.userId := by
  unfold elected clearDefault
  split_ifs <;> rfl

theorem elected_deletedAt : (elected userId id a).deletedAt = a.deletedAt := by
  unfold elected clearDefault
  split_ifs <;> rfl

theorem elected_id : (elected userId id a).id = a.id := by
  unfold elected clearDefault
  split_ifs <;> rfl

theorem elected_createdAt : (elected userId id a).createdAt = a.createdAt := by
  unfold elected clearDefault
  split_ifs <;> rfl

/-- The rows after the two statements -/
theorem rows_elect
    {db₁ db₂ : AddressDb} {r : UserAddressRow}
    (hclear : addressExec (.clearDefaults userId) db = .ok (db₁, ()))
    (hset : addressExec (.update id ⟨sameText, some true, none⟩) db₁ = .ok (db₂, r)) :
    db₂.addresses.rows = db.addresses.rows.map (elected userId id) := by
  cases hclear
  simp only [addressExec] at hset
  split at hset
  · cases hset
  · split at hset
    · cases hset
    · cases hset
      simp only [Table.update, Table.rows_updateWhere, List.map_map]
      refine List.map_congr_left fun a _ => ?_
      have hkey : key (if a.activeOf userId then clearDefault a else a) = a.id := by
        split_ifs <;> rfl
      simp only [Function.comp_def, elected, hkey, decide_eq_true_eq]
      split_ifs <;> rfl

/-- The address that is elected is the only default. -/
theorem oneDefault_elected
    (hdeleted : ∀ a, a ∈ db.addressesOf userId → a.deletedAt ≠ none → a.isDefault ≠ some true)
    (hd : d ∈ db.activeAddresses userId)
    (hrows : after.addresses.rows = db.addresses.rows.map (elected userId d.id)) :
    OneDefault after userId := by
  obtain ⟨hmem, huser, hactive⟩ := mem_activeAddresses.mp hd
  constructor
  · intro _
    refine ⟨elected userId d.id d, ⟨?_, ?_⟩, ?_⟩
    · rw [mem_activeAddresses, hrows]
      exact ⟨List.mem_map_of_mem hmem, elected_userId.trans huser, elected_deletedAt.trans hactive⟩
    · simp [elected]
    · rintro _ ⟨ha, hdefault⟩
      rw [mem_activeAddresses, hrows] at ha
      obtain ⟨hrow, hauser, haactive⟩ := ha
      obtain ⟨a, ha, rfl⟩ := List.mem_map.mp hrow
      rw [elected_userId] at hauser
      rw [elected_deletedAt] at haactive
      have hid : a.id = d.id := by
        by_contra hne
        rw [elected, if_neg hne, if_pos (activeOf_iff.mpr ⟨hauser, haactive⟩)] at hdefault
        cases hdefault
      rw [eq_of_id ha hmem hid]
  · intro a' ha' hgone
    rw [mem_addressesOf, hrows] at ha'
    obtain ⟨hrow, hauser⟩ := ha'
    obtain ⟨a, ha, rfl⟩ := List.mem_map.mp hrow
    rw [elected_userId] at hauser
    rw [elected_deletedAt] at hgone
    have hne : a.id ≠ d.id := fun hid => hgone (eq_of_id ha hmem hid ▸ hactive)
    have hinactive : a.activeOf userId ≠ true := fun h => hgone (activeOf_iff.mp h).2
    rw [elected, if_neg hne, if_neg hinactive]
    exact hdeleted a (mem_addressesOf.mpr ⟨ha, hauser⟩) hgone

theorem addressesOf_elected
    (hd : d ∈ db.activeAddresses userId)
    (hrows : after.addresses.rows = db.addresses.rows.map (elected userId d.id))
    (hother : other ≠ userId) :
    after.addressesOf other = db.addressesOf other := by
  obtain ⟨hmem, huser, -⟩ := mem_activeAddresses.mp hd
  refine addressesOf_of_map hrows (fun _ => elected_userId) fun a ha hof => ?_
  have hne : a.id ≠ d.id := fun hid => hother (by rw [← hof, eq_of_id ha hmem hid, huser])
  have hinactive : a.activeOf userId ≠ true :=
    fun h => hother (hof.symm.trans (activeOf_iff.mp h).1)
  rw [elected, if_neg hne, if_neg hinactive]

end Rows

/-! ### What the calls do -/

section Calls

variable {faults : AddressStmt → Outcome} {db after : AddressDb}
variable {id userId answer : Nat}

/-- An address found by id and user -/
theorem findActive_eq_some
    {r : Option UserAddressRow} {db' : AddressDb} {target : UserAddressRow}
    (h : addressExec (.findActive id userId) db = .ok (db', r)) (hr : r = some target) :
    db' = db ∧ target ∈ db.activeAddresses userId ∧ target.id = id := by
  simp only [addressExec, Except.ok.injEq, Prod.mk.injEq] at h
  obtain ⟨rfl, rfl⟩ := h
  obtain ⟨hmem, hp⟩ := Table.findFirst_eq_some hr
  rw [Bool.and_eq_true, decide_eq_true_eq, activeOf_iff] at hp
  exact ⟨rfl, mem_activeAddresses.mpr ⟨hmem, hp.2⟩, hp.1⟩

/-- The rows after an update of one of them -/
theorem rows_update
    {data : AddressUpdate} {db' : AddressDb} {r : UserAddressRow}
    (h : addressExec (.update id data) db = .ok (db', r)) :
    db'.addresses.rows =
      db.addresses.rows.map fun a => if a.id = id then data.apply a else a := by
  simp only [addressExec] at h
  split at h
  · cases h
  · split at h
    · cases h
    · cases h
      refine List.map_congr_left fun a _ => ?_
      simp only [decide_eq_true_eq]
      rfl

theorem createUserAddress_ok
    {body : CreateUserAddressRequestDto}
    (h : (createUserAddressByUserId userId body).Ends addressExec .database faults db after
      (.ok answer)) :
    ∃ row, after.addresses.rows = db.addresses.rows ++ [row] ∧ row.userId = userId ∧
      row.deletedAt = none ∧
      row.isDefault = some (decide ((db.activeAddresses userId).length = 0)) := by
  obtain ⟨-, v, activeCount, hcount, h⟩ := ends_bind_await_ok.mp h
  obtain ⟨-, v', row, hcreate, h⟩ := ends_bind_await_ok.mp h
  cases h.1
  cases hcount
  simp only [addressExec] at hcreate
  split at hcreate
  · cases hcreate
  · split at hcreate
    · cases hcreate
      exact ⟨_, rfl, rfl, rfl, rfl⟩
    · cases hcreate

theorem updateUserAddress_ok
    {body : UpdateUserAddressRequestDto}
    (h : (updateUserAddressByIdAndUserId id userId body).Ends addressExec .database faults db after
      (.ok answer)) :
    ∃ target, target ∈ db.activeAddresses userId ∧ after.addresses.rows = db.addresses.rows.map
      fun a => if a.id = target.id then (AddressUpdate.apply ⟨body, none, none⟩ a) else a := by
  obtain ⟨-, v, found, hfind, hrest⟩ := ends_bind_await_ok.mp h
  cases found with
  | none =>
      cases hrest.2
  | some target =>
      obtain ⟨rfl, htarget, hid⟩ := findActive_eq_some hfind rfl
      obtain ⟨-, v', row, hupdate, hret⟩ := ends_bind_await_ok.mp hrest
      cases hret.1
      exact ⟨target, htarget, hid ▸ rows_update hupdate⟩

/-- `clearDefaults` and the update that follows it -/
theorem elect_ok
    {α : Type} {target : UserAddressRow} {f : UserAddressRow → α} {x : α}
    (h : ((addressQuery (.clearDefaults userId)).bind fun _ =>
      (addressQuery (.update target.id ⟨sameText, some true, none⟩)).bind fun r =>
        ret (f r)).Ends addressExec .database faults db after (.ok x)) :
    after.addresses.rows = db.addresses.rows.map (elected userId target.id) := by
  obtain ⟨-, v, r, hclear, hrest⟩ := ends_bind_await_ok.mp h
  obtain ⟨-, v', row, hset, hret⟩ := ends_bind_await_ok.mp hrest
  cases hret.1
  exact rows_elect hclear hset

theorem setDefault_ok
    (h : (setDefaultByIdAndUserId id userId).Ends addressExec .database faults db after
      (.ok answer)) :
    ∃ target, target ∈ db.activeAddresses userId ∧
      after.addresses.rows = db.addresses.rows.map (elected userId target.id) := by
  obtain ⟨-, v, found, hfind, hrest⟩ := ends_bind_await_ok.mp h
  cases found with
  | none =>
      cases hrest.2
  | some target =>
      obtain ⟨rfl, htarget, hid⟩ := findActive_eq_some hfind rfl
      exact ⟨target, htarget, elect_ok hrest⟩

theorem newerAddress_eq_false_iff {a b : UserAddressRow} :
    newerAddress a b = false ↔
      a.createdAt < b.createdAt ∨ a.createdAt = b.createdAt ∧ a.id ≤ b.id := by
  simp only [newerAddress, Bool.or_eq_false_iff, Bool.and_eq_false_iff, decide_eq_false_iff_not]
  omega

/-- The first of the rows, newest first -/
theorem newest_of_head?
    {l : List UserAddressRow} {d : UserAddressRow}
    (h : (orderBy newerAddress l).head? = some d) :
    d ∈ l ∧ ∀ a, a ∈ l → newerAddress a d = false := by
  have hsorted := @pairwise_orderBy _ newerAddress
    (fun a b => by simp only [newerAddress_eq_false_iff]; omega)
    (fun a b c => by simp only [newerAddress_eq_false_iff]; omega) l
  have hperm := perm_orderBy newerAddress l
  obtain ⟨rest, hrest⟩ := List.head?_eq_some_iff.mp h
  rw [hrest] at hsorted hperm
  refine ⟨hperm.mem_iff.mp List.mem_cons_self, fun a ha => ?_⟩
  rcases List.mem_cons.mp (hperm.mem_iff.mpr ha) with rfl | ha
  · rw [newerAddress_eq_false_iff]
    exact .inr ⟨rfl, Nat.le_refl _⟩
  · exact (List.pairwise_cons.mp hsorted).1 a ha

/-- The address that is elected, if there is one left -/
theorem electDefault_ok
    (h : (electDefault userId).Ends addressExec .database faults db after (.ok ())) :
    db.activeAddresses userId = [] ∧ after = db ∨
      ∃ d, d ∈ db.activeAddresses userId ∧
        (∀ a, a ∈ db.activeAddresses userId → newerAddress a d = false) ∧
        after.addresses.rows = db.addresses.rows.map (elected userId d.id) := by
  obtain ⟨-, v, newestActive, hfind, hrest⟩ := ends_bind_await_ok.mp h
  simp only [addressExec, Except.ok.injEq, Prod.mk.injEq] at hfind
  obtain ⟨rfl, hhead⟩ := hfind
  cases newestActive with
  | none =>
      have hperm := perm_orderBy newerAddress (db.activeAddresses userId)
      rw [List.head?_eq_none_iff.mp hhead] at hperm
      exact .inl ⟨hperm.nil_eq.symm, hrest.1⟩
  | some d =>
      obtain ⟨hd, hnewest⟩ := newest_of_head? hhead
      exact .inr ⟨d, hd, hnewest, elect_ok hrest⟩

/-- A row after the first update of `softDeleteByIdAndUserId` -/
def retired (id now : Nat) (a : UserAddressRow) : UserAddressRow :=
  if a.id = id then { a with isDefault := some false, deletedAt := some now } else a

theorem softDelete_ok
    (h : (softDeleteByIdAndUserId id userId).Ends addressExec .database faults db after
      (.ok answer)) :
    ∃ (target : UserAddressRow) (now : Nat) (db₁ : AddressDb),
      target ∈ db.activeAddresses userId ∧ target.id = id ∧
      db₁.addresses.rows = db.addresses.rows.map (retired target.id now) ∧
      if target.isDefault = some true
      then (electDefault userId).Ends addressExec .database faults db₁ after (.ok ())
      else after = db₁ := by
  obtain ⟨-, v, found, hfind, hrest⟩ := ends_bind_await_ok.mp h
  cases found with
  | none =>
      cases hrest.2
  | some target =>
      obtain ⟨rfl, htarget, hid⟩ := findActive_eq_some hfind rfl
      obtain ⟨-, v', now, hnow, hrest⟩ := ends_bind_await_ok.mp hrest
      cases hnow
      obtain ⟨-, db₁, row, hupdate, hrest⟩ := ends_bind_await_ok.mp hrest
      refine ⟨target, v.now, db₁, htarget, hid, rows_update hupdate, ?_⟩
      dsimp only at hrest
      split_ifs at hrest ⊢
      · obtain ⟨v', u, helect, hret⟩ := ends_bind_ok.mp hrest
        cases hret.1
        exact helect
      · exact hrest.1

/-- A statement that is not done leaves the database as it is. -/
theorem attempt_of_error
    {s : AddressStmt} {o : Outcome} {e : AddressFailure}
    (ho : o ≠ .lost)
    (h : (attempt addressExec .database s o db).2 = .error e) :
    (attempt addressExec .database s o db).1 = db := by
  cases o with
  | ok =>
      cases hexec : addressExec s db with
      | ok wr =>
          simp [attempt, hexec] at h
      | error e' =>
          simp [attempt, hexec]
  | fail =>
      rfl
  | lost =>
      exact absurd rfl ho

/-- The one statement that edits an address is the last one. -/
theorem updateUserAddress_error
    {body : UpdateUserAddressRequestDto} {e : AddressFailure}
    (hfaults : ∀ s, faults s ≠ .lost)
    (h : (updateUserAddressByIdAndUserId id userId body).Ends addressExec .database faults db after
      (.error e)) :
    after = db := by
  rcases ends_bind.mp h with ⟨v, found, hfind, hrest⟩ | ⟨e', hfind, -⟩
  · have hread : v = db := by
      cases (ends_await_ok.mp hfind).2
      rfl
    subst hread
    cases found with
    | none =>
        exact hrest.1
    | some target =>
        rcases ends_bind.mp hrest with ⟨v', row, -, hret⟩ | ⟨e', hupdate, -⟩
        · cases hret.2
        · obtain ⟨rfl, hx⟩ := ends_await.mp hupdate
          exact attempt_of_error (hfaults _) hx.symm
  · obtain ⟨rfl, hx⟩ := ends_await.mp hfind
    exact attempt_of_error (hfaults _) hx.symm

end Calls

/-! ### What the calls keep -/

section Keeps

variable {db after : AddressDb} {userId other id answer : Nat} {target : UserAddressRow}

theorem oneDefault_insert
    {row : UserAddressRow}
    (h : OneDefault db userId)
    (hrows : after.addresses.rows = db.addresses.rows ++ [row])
    (huser : row.userId = userId) (hactive : row.deletedAt = none)
    (hdefault : row.isDefault = some (decide ((db.activeAddresses userId).length = 0))) :
    OneDefault after userId := by
  have hactives : after.activeAddresses userId = db.activeAddresses userId ++ [row] := by
    simp [AddressDb.activeAddresses, Table.filter, hrows, List.filter_append,
      UserAddressRow.activeOf, huser, hactive]
  constructor
  · intro _
    rw [hactives]
    by_cases hnone : db.activeAddresses userId = []
    · rw [hnone] at hdefault ⊢
      exact ⟨row, ⟨by simp, by simpa using hdefault⟩, fun a ha => by simpa using ha.1⟩
    · obtain ⟨d, ⟨hd, hd'⟩, hunique⟩ := h.default hnone
      refine ⟨d, ⟨List.mem_append_left _ hd, hd'⟩, fun a ha => ?_⟩
      rcases List.mem_append.mp ha.1 with hmem | hmem
      · exact hunique a ⟨hmem, ha.2⟩
      · rw [List.mem_singleton.mp hmem, hdefault] at ha
        simp [List.length_eq_zero_iff, hnone] at ha
  · intro a ha hdeleted
    rw [mem_addressesOf, hrows] at ha
    rcases List.mem_append.mp ha.1 with hmem | hmem
    · exact h.deleted a (mem_addressesOf.mpr ⟨hmem, ha.2⟩) hdeleted
    · exact absurd hactive (List.mem_singleton.mp hmem ▸ hdeleted)

/-- Other users' addresses are not touched by an insertion. -/
theorem addressesOf_insert
    {row : UserAddressRow}
    (hrows : after.addresses.rows = db.addresses.rows ++ [row]) (hother : other ≠ row.userId) :
    after.addressesOf other = db.addressesOf other := by
  simp [AddressDb.addressesOf, Table.filter, hrows, List.filter_append, Ne.symm hother]

section Retired

variable {now : Nat}
variable (htarget : target ∈ db.activeAddresses userId)
variable (hrows : after.addresses.rows = db.addresses.rows.map (retired target.id now))
include htarget hrows

omit htarget in
theorem mem_activeAddresses_retired {a : UserAddressRow} :
    a ∈ after.activeAddresses userId ↔ a ∈ db.activeAddresses userId ∧ a.id ≠ target.id := by
  simp only [mem_activeAddresses, hrows, List.mem_map]
  constructor
  · rintro ⟨⟨b, hb, rfl⟩, huser, hactive⟩
    by_cases hid : b.id = target.id
    · rw [retired, if_pos hid] at hactive
      cases hactive
    · rw [retired, if_neg hid] at huser hactive ⊢
      exact ⟨⟨hb, huser, hactive⟩, hid⟩
  · rintro ⟨⟨ha, huser, hactive⟩, hid⟩
    exact ⟨⟨a, ha, if_neg hid⟩, huser, hactive⟩

omit htarget in
theorem deleted_retired
    (h : OneDefault db userId) :
    ∀ a, a ∈ after.addressesOf userId → a.deletedAt ≠ none → a.isDefault ≠ some true := by
  intro a' ha' hdeleted
  rw [mem_addressesOf, hrows] at ha'
  obtain ⟨hrow, huser⟩ := ha'
  obtain ⟨a, ha, rfl⟩ := List.mem_map.mp hrow
  by_cases hid : a.id = target.id
  · rw [retired, if_pos hid]
    simp
  · rw [retired, if_neg hid] at huser hdeleted ⊢
    exact h.deleted a (mem_addressesOf.mpr ⟨ha, huser⟩) hdeleted

/-- Another address was the default and stays it. -/
theorem oneDefault_retired
    (h : OneDefault db userId) (hdefault : target.isDefault ≠ some true) :
    OneDefault after userId := by
  refine ⟨fun _ => ?_, deleted_retired hrows h⟩
  obtain ⟨d, ⟨hd, hd'⟩, hunique⟩ := h.default (List.ne_nil_of_mem htarget)
  have hne : d.id ≠ target.id := by
    intro hid
    have hmem := (mem_activeAddresses.mp hd).1
    rw [eq_of_id hmem (mem_activeAddresses.mp htarget).1 hid] at hd'
    exact hdefault hd'
  refine ⟨d, ⟨(mem_activeAddresses_retired hrows).mpr ⟨hd, hne⟩, hd'⟩, fun a ha => ?_⟩
  exact hunique a ⟨((mem_activeAddresses_retired hrows).mp ha.1).1, ha.2⟩

theorem addressesOf_retired (hother : other ≠ userId) :
    after.addressesOf other = db.addressesOf other := by
  obtain ⟨hmem, huser, -⟩ := mem_activeAddresses.mp htarget
  refine addressesOf_of_map hrows (fun a => ?_) fun a ha hof => ?_
  · unfold retired
    split_ifs <;> rfl
  · exact if_neg fun hid => hother (by rw [← hof, eq_of_id ha hmem hid, huser])

end Retired

/-- What a call keeps for its user and for the others -/
structure CallKeeps (call : AddressCall) (x : Except AddressFailure AddressAnswer)
    (db after : AddressDb) : Prop where
  failed : ∀ e, x = .error e → after.addresses = db.addresses
  others : ∀ other, other ≠ call.userId → after.addressesOf other = db.addressesOf other
  oneDefault : OneDefault db call.userId → OneDefault after call.userId
  successor : ∀ id userId deleted answer, call = .softDelete id userId → x = .ok answer →
    deleted ∈ db.activeAddresses userId → deleted.id = id → deleted.isDefault = some true →
    after.activeAddresses userId ≠ [] → NewestDefault after userId

variable {faults : AddressStmt → Outcome}

theorem newestDefault_elected
    {d : UserAddressRow}
    (hd : d ∈ db.activeAddresses userId)
    (hnewest : ∀ a, a ∈ db.activeAddresses userId → newerAddress a d = false)
    (hrows : after.addresses.rows = db.addresses.rows.map (elected userId d.id)) :
    NewestDefault after userId := by
  obtain ⟨hmem, huser, hactive⟩ := mem_activeAddresses.mp hd
  refine ⟨elected userId d.id d, ?_, by simp [elected], ?_⟩
  · rw [mem_activeAddresses, hrows]
    exact ⟨List.mem_map_of_mem hmem, elected_userId.trans huser, elected_deletedAt.trans hactive⟩
  · intro a' ha'
    rw [mem_activeAddresses, hrows] at ha'
    obtain ⟨hrow, hauser, haactive⟩ := ha'
    obtain ⟨a, ha, rfl⟩ := List.mem_map.mp hrow
    rw [elected_userId] at hauser
    rw [elected_deletedAt] at haactive
    have := hnewest a (mem_activeAddresses.mpr ⟨ha, hauser, haactive⟩)
    rw [newerAddress_eq_false_iff] at this ⊢
    simpa only [elected_createdAt, elected_id] using this

theorem create_keeps
    {body : CreateUserAddressRequestDto}
    (h : (createUserAddressByUserId userId body).Ends addressExec .database faults db after
      (.ok answer)) :
    CallKeeps (.create userId body) (.ok answer) db after := by
  obtain ⟨row, hrows, huser, hactive, hdefault⟩ := createUserAddress_ok h
  refine ⟨fun e he => (by cases he), fun other hother => ?_, fun hone => ?_,
    fun _ _ _ _ hcall => ?_⟩
  · exact addressesOf_insert hrows (huser ▸ hother)
  · exact oneDefault_insert hone hrows huser hactive hdefault
  · cases hcall

theorem update_keeps
    {body : UpdateUserAddressRequestDto}
    (h : (updateUserAddressByIdAndUserId id userId body).Ends addressExec .database faults db after
      (.ok answer)) :
    CallKeeps (.update id userId body) (.ok answer) db after := by
  obtain ⟨target, htarget, hrows⟩ := updateUserAddress_ok h
  obtain ⟨hmem, huser, -⟩ := mem_activeAddresses.mp htarget
  refine ⟨fun e he => (by cases he), fun other hother => ?_, fun hone => ?_,
    fun _ _ _ _ hcall => ?_⟩
  · refine addressesOf_of_map hrows (fun a => ?_) fun a ha hof => ?_
    · split_ifs <;> rfl
    · exact if_neg fun hid => hother (by rw [← hof, eq_of_id ha hmem hid, huser]; rfl)
  · refine hone.of_map hrows fun a => ?_
    split_ifs <;> exact ⟨rfl, rfl, rfl⟩
  · cases hcall

theorem setDefault_keeps
    (h : (setDefaultByIdAndUserId id userId).Ends addressExec .database faults db after
      (.ok answer)) :
    CallKeeps (.setDefault id userId) (.ok answer) db after := by
  obtain ⟨target, htarget, hrows⟩ := setDefault_ok h
  refine ⟨fun e he => (by cases he), fun other hother => ?_, fun hone => ?_,
    fun _ _ _ _ hcall => ?_⟩
  · exact addressesOf_elected htarget hrows hother
  · exact oneDefault_elected hone.deleted htarget hrows
  · cases hcall

theorem softDelete_keeps
    (h : (softDeleteByIdAndUserId id userId).Ends addressExec .database faults db after
      (.ok answer)) :
    CallKeeps (.softDelete id userId) (.ok answer) db after := by
  obtain ⟨target, now, db₁, htarget, rfl, hrows, hrest⟩ := softDelete_ok h
  have hothers : ∀ other, other ≠ userId → db₁.addressesOf other = db.addressesOf other :=
    fun other hother => addressesOf_retired htarget hrows hother
  refine ⟨fun e he => (by cases he), ?_, ?_, ?_⟩
  · intro other hother
    split_ifs at hrest with hdefault
    · rcases electDefault_ok hrest with ⟨-, rfl⟩ | ⟨d, hd, -, helected⟩
      · exact hothers other hother
      · exact (addressesOf_elected hd helected hother).trans (hothers other hother)
    · exact hrest ▸ hothers other hother
  · intro hone
    split_ifs at hrest with hdefault
    · have hdeleted := deleted_retired hrows hone
      rcases electDefault_ok hrest with ⟨hnone, rfl⟩ | ⟨d, hd, -, helected⟩
      · exact ⟨fun hsome => absurd hnone hsome, hdeleted⟩
      · exact oneDefault_elected hdeleted hd helected
    · exact hrest ▸ oneDefault_retired htarget hrows hone hdefault
  · rintro id' userId' deleted answer' hcall - hdeleted hid hdefault hsome
    cases hcall
    have heq : deleted = target :=
      eq_of_id (mem_activeAddresses.mp hdeleted).1 (mem_activeAddresses.mp htarget).1 hid
    rw [if_pos (heq ▸ hdefault)] at hrest
    rcases electDefault_ok hrest with ⟨hnone, rfl⟩ | ⟨d, hd, hnewest, helected⟩
    · exact absurd hnone hsome
    · exact newestDefault_elected hd hnewest helected

/-- **One call**, whether it returns or throws -/
theorem callKeeps
    {call : AddressCall} {x : Except AddressFailure AddressAnswer}
    (hfaults : ∀ s, faults s ≠ .lost)
    (h : call.service.Ends addressExec .database faults db after x) :
    CallKeeps call x db (commit call db after x) := by
  cases x with
  | ok answer =>
      cases call with
      | create userId body =>
          exact create_keeps h
      | update id userId body =>
          exact update_keeps h
      | setDefault id userId =>
          exact setDefault_keeps h
      | softDelete id userId =>
          exact softDelete_keeps h
  | error e =>
      have hsame : commit call db after (.error e) = db := by
        cases call with
        | update id userId body =>
            exact updateUserAddress_error hfaults h
        | _ =>
            rfl
      rw [hsame]
      exact ⟨fun _ _ => rfl, fun _ _ => rfl, id, fun _ _ _ _ _ hx => by cases hx⟩

end Keeps

/-! ### Runs -/

theorem activeAddresses_eq_filter (db : AddressDb) (userId : Nat) :
    db.activeAddresses userId = (db.addressesOf userId).filter fun a => a.deletedAt.isNone := by
  simp only [AddressDb.activeAddresses, AddressDb.addressesOf, Table.filter, List.filter_filter,
    UserAddressRow.activeOf, Bool.and_comm]

/-- One default is said of the addresses of the user. -/
theorem OneDefault.of_addressesOf
    {db db' : AddressDb} {userId : Nat}
    (h : OneDefault db userId) (hsame : db'.addressesOf userId = db.addressesOf userId) :
    OneDefault db' userId := by
  have hactive : db'.activeAddresses userId = db.activeAddresses userId := by
    rw [activeAddresses_eq_filter, activeAddresses_eq_filter, hsame]
  exact ⟨hactive ▸ h.default, hsame ▸ h.deleted⟩

/-- **One step** -/
theorem oneDefault_step
    {db db' : AddressDb} {event : AddressEvent} {userId : Nat}
    (h : OneDefault db userId) (hstep : AddressStep db event db') :
    OneDefault db' userId := by
  cases hstep with
  | @call call _ after x faults hfaults hends =>
      have hkeeps := callKeeps hfaults hends
      by_cases huser : userId = call.userId
      · subst huser
        exact hkeeps.oneDefault h
      · exact h.of_addressesOf (hkeeps.others userId huser)
  | tick ms =>
      exact ⟨h.default, h.deleted⟩

/--
From a state in which the user has no address, whatever calls follow and whichever of them
fail: while the user has an address exactly one is the default, no deleted one is, and every
further call keeps its promises.
-/
theorem oneDefault_runs
    (userId : Nat) {db db' : AddressDb} {events : List AddressEvent}
    (hnone : db.addressesOf userId = [])
    (hrun : Serves AddressStep db events db') :
    OneDefault db' userId ∧
      ∀ call x after, AddressStep db' (.call call x) after → CallKeeps call x db' after := by
  have hstart : OneDefault db userId := by
    refine ⟨fun hsome => absurd ?_ hsome, fun a ha => ?_⟩
    · rw [activeAddresses_eq_filter, hnone]
      rfl
    · rw [hnone] at ha
      cases ha
  constructor
  · exact (Serves.invariant (I := fun db => OneDefault db userId) (P := fun _ => True)
      (fun _ _ _ _ h hstep => ⟨oneDefault_step h hstep, trivial⟩) hstart hrun).1
  · intro call x after hstep
    cases hstep with
    | call faults hfaults hends =>
        exact callKeeps hfaults hends

/-- A user without addresses -/
def noAddresses : AddressDb where
  users := [1]
  addresses := .empty
  now := 0

def homeAddress : CreateUserAddressRequestDto where
  recipientName := "An"
  phoneNumber := "0901"
  addressDetail := "1"
  ward := "A"
  district := "B"
  city := "C"
  addressType := none

/-- Calls one after another of which no statement fails, and pauses; the events with them -/
def serveInTurn : List (AddressCall ⊕ Nat) → AddressDb → Option (List AddressEvent × AddressDb)
  | [], db => some ([], db)
  | .inl c :: rest, db =>
      (c.service.alone addressExec .database db).bind fun r =>
        (serveInTurn rest (commit c db r.1 r.2)).map fun served =>
          (.call c r.2 :: served.1, served.2)
  | .inr ms :: rest, db =>
      (serveInTurn rest { db with now := db.now + ms }).map fun served =>
        (.tick ms :: served.1, served.2)

theorem serves_of_serveInTurn
    {calls : List (AddressCall ⊕ Nat)} {events : List AddressEvent} {db db' : AddressDb}
    (h : serveInTurn calls db = some (events, db')) :
    Serves AddressStep db events db' := by
  induction calls generalizing db events with
  | nil =>
      cases h
      exact .nil
  | cons request rest ih =>
      cases request with
      | inl c =>
          obtain ⟨⟨after, x⟩, halone, hrest⟩ := Option.bind_eq_some_iff.mp h
          obtain ⟨⟨events', db₁⟩, hserved, heq⟩ := Option.map_eq_some_iff.mp hrest
          cases heq
          exact .cons (.call (fun _ => .ok) (fun _ => by simp)
            (yields_iff_ends.mp (yields_of_alone halone))) (ih hserved)
      | inr ms =>
          obtain ⟨⟨events', db₁⟩, hserved, heq⟩ := Option.map_eq_some_iff.mp h
          cases heq
          exact .cons (.tick db ms) (ih hserved)

/--
Three addresses; the second one becomes the default and is deleted, and so is one that is not
there.
-/
def sampleAddressCalls : List (AddressCall ⊕ Nat) :=
  [.inl (.create 1 homeAddress), .inr 1000, .inl (.create 1 homeAddress), .inr 1000,
    .inl (.create 1 homeAddress), .inl (.setDefault 2 1), .inl (.softDelete 2 1),
    .inl (.softDelete 9 1)]

/-- The newest address is the default now. -/
theorem oneDefault_runs_sampleAddressCalls :
    ∃ events db, Serves AddressStep noAddresses events db ∧ OneDefault db 1 ∧
      (db.activeAddresses 1).map (·.id) = [1, 3] ∧
      ∀ d, d ∈ db.activeAddresses 1 → d.isDefault = some true → d.id = 3 := by
  obtain ⟨⟨events, db⟩, hserve, hdb⟩ := (Option.any_eq_true
    (fun r : List AddressEvent × AddressDb =>
      decide ((r.2.activeAddresses 1).map (·.id) = [1, 3]) &&
        (r.2.activeAddresses 1).all fun d =>
          !decide (d.isDefault = some true) || decide (d.id = 3)) _).mp
    (by decide +kernel : (serveInTurn sampleAddressCalls noAddresses).any _ = true)
  obtain ⟨hids, hdefault⟩ := Bool.and_eq_true_iff.mp hdb
  have hserves := serves_of_serveInTurn hserve
  refine ⟨events, db, hserves, (oneDefault_runs 1 rfl hserves).1, of_decide_eq_true hids, ?_⟩
  intro d hd htrue
  have hd' := List.all_eq_true.mp hdefault d hd
  rw [decide_eq_true htrue] at hd'
  exact of_decide_eq_true hd'

end UserAddresses
end BookStore
