import Mathlib.Logic.Function.Basic
import Mathlib.Logic.Relation
import Micboard.RealtimeRouting

/-! The WebSocket consumer. Authorization is resolved when a client connects and read again from the
persisted state before every payload; users, memberships, organizations, campuses and settings change
independently, between any two steps of any connection. -/

namespace Micboard

open Library

/-- A user row; `canViewRealtime` is `has_perm("micboard.view_realtimeconnection")`. -/
structure RealtimeUser where
  pk : Nat
  isActive : Bool
  canViewRealtime : Bool
  deriving DecidableEq, Repr

structure Organization where
  pk : Nat
  siteId : Option Int
  isActive : Bool
  deriving DecidableEq, Repr

structure Campus where
  pk : Nat
  organizationId : Nat
  isActive : Bool
  deriving DecidableEq, Repr

structure OrganizationMembership where
  userId : Nat
  organizationId : Nat
  campusId : Option Nat
  isActive : Bool
  deriving DecidableEq, Repr

/-- What authorization depends on. -/
structure PersistedState where
  settings : RealtimeSettings
  users : List RealtimeUser
  organizations : List Organization
  campuses : List Campus
  memberships : List OrganizationMembership

/-- The user of a connection's scope: as it was loaded when the connection was opened. -/
structure ScopeUser where
  pk : Option Nat
  isAuthenticated : Bool
  isActive : Bool
  canViewRealtime : Bool
  deriving DecidableEq, Repr

namespace MicboardConsumer

/-- The joins and filters of `_membership_group_names`. -/
def membershipSelected (db : PersistedState) (userId : Nat) (membership : OrganizationMembership) :
    Bool :=
  membership.userId = userId && membership.isActive &&
  db.users.any (fun user => user.pk = userId && user.isActive) &&
  db.organizations.any (fun organization =>
    organization.pk = membership.organizationId && organization.isActive &&
    (!db.settings.multiSiteMode || organization.siteId = db.settings.siteId)) &&
  match membership.campusId with
  | none => true
  | some campusId => db.campuses.any fun campus =>
    campus.pk = campusId && campus.isActive && campus.organizationId = membership.organizationId

/-- The order of `order_by("organization_id", "campus_id")`. -/
def membershipOrder (a b : OrganizationMembership) : Bool :=
  a.organizationId < b.organizationId ||
    (a.organizationId = b.organizationId && a.campusId.getD 0 ≤ b.campusId.getD 0)

/-- Resolve active, internally consistent tenant memberships to groups. -/
def membershipGroupNames (db : PersistedState) (userId : Nat) : List String :=
  ((db.memberships.filter (membershipSelected db userId)).mergeSort membershipOrder).map
    fun membership =>
      match membership.campusId with
      | some campusId => campusUpdatesGroup membership.organizationId campusId
      | none => organizationUpdatesGroup membership.organizationId

/-- The user row of `filter(pk=user_id, is_active=True).first()`. -/
def activeUser (db : PersistedState) (userId : Nat) : Option RealtimeUser :=
  db.users.find? fun user => user.pk = userId && user.isActive

/-- The routes of a user, once its row has been read as `user`; the remaining queries see `db`. -/
def currentGroupNames (db : PersistedState) (userId : Nat) (user : Option RealtimeUser) :
    List String :=
  match user with
  | none => []
  | some user =>
    if db.settings.mspEnabled then membershipGroupNames db userId
    else if db.settings.multiSiteMode then
      ((RealtimeRoutingService.normalizeSiteId db.settings.siteId).map siteUpdatesGroup).toList
    else if user.isActive && user.canViewRealtime then [globalUpdatesGroup]
    else []

/-- `site_updates_group(settings.SITE_ID)`: the setting may be any integer. -/
def siteGroupOf (siteId : Int) : String :=
  if 0 ≤ siteId then siteUpdatesGroup siteId.toNat
  else globalUpdatesGroup ++ ".site.-" ++ String.ofList (Text.decimal siteId.natAbs)

/-- The groups a connection of `user` joins, or the code it is closed with; `none` where the handler
raises because the site is not configured. -/
def connectGroups (db : PersistedState) (user : Option ScopeUser) :
    Option (Except Nat (List String)) :=
  match user with
  | none => some (.error 4401)
  | some user =>
    if !user.isAuthenticated then some (.error 4401)
    else if !user.isActive then some (.error 4403)
    else if db.settings.mspEnabled then
      let groups := (user.pk.map (membershipGroupNames db)).getD []
      if groups = [] then some (.error 4403) else some (.ok groups)
    else if db.settings.multiSiteMode then
      db.settings.siteId.map fun siteId => .ok [siteGroupOf siteId]
    else if !(user.isActive && user.canViewRealtime) then some (.error 4403)
    else some (.ok [globalUpdatesGroup])

end MicboardConsumer

/-- Where the handler of an event stands: it waits for events, has read the user row, or has been
cleared to send. The persisted states its queries saw are kept with it. -/
inductive ConsumerPhase (π : Type*) where
  | idle
  | checking (payload : π)
  | resolving (payload : π) (user : Option RealtimeUser) (userRead : PersistedState)
  | sending (payload : π) (userRead groupsRead : PersistedState)

/-- A payload that was forwarded, with the groups joined and the states the check before it read. -/
structure Forwarded (π : Type*) where
  payload : π
  user : Option ScopeUser
  joined : List String
  userRead : PersistedState
  groupsRead : PersistedState

/-- One connection. `roomGroupNames` are the groups it joined, `layerGroups` those the channel layer has
it in. -/
structure Connection (π : Type*) where
  user : Option ScopeUser
  roomGroupNames : List String
  layerGroups : List String
  phase : ConsumerPhase π
  accepted : Bool
  closed : Bool
  stopped : Bool
  forwarded : List (Forwarded π)

namespace Connection

variable {π : Type*}

/-- A connection that has not been handled yet. -/
def opening (user : Option ScopeUser) : Connection π where
  user
  roomGroupNames := []
  layerGroups := []
  phase := .idle
  accepted := false
  closed := false
  stopped := false
  forwarded := []

def connect (db : PersistedState) (connection : Connection π) : Connection π :=
  match MicboardConsumer.connectGroups db connection.user with
  | none => { connection with stopped := true }
  | some (.error _) => { connection with roomGroupNames := [], closed := true }
  | some (.ok groups) =>
    { connection with
      roomGroupNames := groups
      layerGroups := groups
      accepted := true }

def closeRevoked (connection : Connection π) : Connection π :=
  { connection with
    roomGroupNames := []
    layerGroups := connection.layerGroups.filter fun group => group ∉ connection.roomGroupNames
    phase := .idle
    closed := true }

/-- The first query of `_can_forward_event`: the connection must be authenticated; its user row is
read. -/
def readUser (db : PersistedState) (connection : Connection π) (payload : π) : Connection π :=
  match connection.user with
  | none => connection.closeRevoked
  | some user =>
    match user.pk with
    | none => connection.closeRevoked
    | some userId =>
      if !user.isAuthenticated then connection.closeRevoked
      else
        { connection with
          phase := .resolving payload (MicboardConsumer.activeUser db userId) db }

/-- The second part of `_can_forward_event`: every joined group must be a current one. -/
def readGroups (db : PersistedState) (connection : Connection π) (payload : π)
    (user : Option RealtimeUser) (userRead : PersistedState) : Connection π :=
  let userId := (connection.user.bind ScopeUser.pk).getD 0
  let currentGroups := MicboardConsumer.currentGroupNames db userId user
  if connection.roomGroupNames = [] || !connection.roomGroupNames.all (· ∈ currentGroups) then
    connection.closeRevoked
  else
    { connection with phase := .sending payload userRead db }

def send (connection : Connection π) (payload : π) (userRead groupsRead : PersistedState) :
    Connection π :=
  { connection with
    phase := .idle
    forwarded := {
      payload
      user := connection.user
      joined := connection.roomGroupNames
      userRead
      groupsRead } :: connection.forwarded }

/-- `disconnect`: the consumer stops after it. -/
def disconnect (connection : Connection π) : Connection π :=
  { connection with
    layerGroups := connection.layerGroups.filter fun group => group ∉ connection.roomGroupNames
    stopped := true }

end Connection

structure RealtimeState (π ι : Type*) where
  db : PersistedState
  connections : ι → Connection π

section Step

variable {π ι : Type*} [DecidableEq ι]

def RealtimeState.set (state : RealtimeState π ι) (i : ι) (connection : Connection π) :
    RealtimeState π ι :=
  { state with connections := Function.update state.connections i connection }

/-- One step: a persisted change of any kind, or one step of one connection. A connection handles one
event at a time and an event may arrive from any group, also after the connection has left it. -/
inductive RealtimeStep (state : RealtimeState π ι) : RealtimeState π ι → Prop where
  | change (db : PersistedState) : RealtimeStep state { state with db }
  | connect (i : ι) (user : Option ScopeUser)
      (hopening : state.connections i = Connection.opening user) :
      RealtimeStep state (state.set i ((state.connections i).connect state.db))
  | receive (i : ι) (payload : π) (hidle : (state.connections i).phase = .idle)
      (hrunning : (state.connections i).stopped = false) :
      RealtimeStep state
        (state.set i { state.connections i with phase := .checking payload })
  | readUser (i : ι) (payload : π) (hphase : (state.connections i).phase = .checking payload) :
      RealtimeStep state (state.set i ((state.connections i).readUser state.db payload))
  | readGroups (i : ι) (payload : π) (user : Option RealtimeUser) (userRead : PersistedState)
      (hphase : (state.connections i).phase = .resolving payload user userRead) :
      RealtimeStep state
        (state.set i ((state.connections i).readGroups state.db payload user userRead))
  | send (i : ι) (payload : π) (userRead groupsRead : PersistedState)
      (hphase : (state.connections i).phase = .sending payload userRead groupsRead) :
      RealtimeStep state (state.set i ((state.connections i).send payload userRead groupsRead))
  /-- A client command above the size limit closes the connection. -/
  | oversized (i : ι) (hidle : (state.connections i).phase = .idle)
      (hrunning : (state.connections i).stopped = false) :
      RealtimeStep state (state.set i { state.connections i with closed := true })
  | disconnect (i : ι) (hidle : (state.connections i).phase = .idle) :
      RealtimeStep state (state.set i (state.connections i).disconnect)

end Step

/-- The user is active in the state its row was read from, and in the state the rest was read from it is
entitled to the group: by an active membership in an active organization, and in its active campus if
the membership names one; by the site; or by the permission to view the global stream. -/
def AuthorizedFor (userRead groupsRead : PersistedState) (userId : Nat) (group : String) : Prop :=
  ∃ user ∈ userRead.users, user.pk = userId ∧ user.isActive ∧
    if groupsRead.settings.mspEnabled then
      ∃ membership ∈ groupsRead.memberships, membership.userId = userId ∧ membership.isActive ∧
        (∃ user ∈ groupsRead.users, user.pk = userId ∧ user.isActive) ∧
        (∃ organization ∈ groupsRead.organizations,
          organization.pk = membership.organizationId ∧ organization.isActive ∧
          (groupsRead.settings.multiSiteMode → organization.siteId = groupsRead.settings.siteId)) ∧
        match membership.campusId with
        | none => group = organizationUpdatesGroup membership.organizationId
        | some campusId => group = campusUpdatesGroup membership.organizationId campusId ∧
          ∃ campus ∈ groupsRead.campuses, campus.pk = campusId ∧ campus.isActive ∧
            campus.organizationId = membership.organizationId
    else if groupsRead.settings.multiSiteMode then
      ∃ siteId, groupsRead.settings.siteId = some siteId ∧ 0 < siteId ∧
        group = siteUpdatesGroup siteId.toNat
    else
      user.canViewRealtime ∧ group = globalUpdatesGroup

theorem mem_membershipGroupNames {db : PersistedState} {userId : Nat} {group : String}
    (h : group ∈ MicboardConsumer.membershipGroupNames db userId) :
    ∃ membership ∈ db.memberships, membership.userId = userId ∧ membership.isActive ∧
      (∃ user ∈ db.users, user.pk = userId ∧ user.isActive) ∧
      (∃ organization ∈ db.organizations,
        organization.pk = membership.organizationId ∧ organization.isActive ∧
        (db.settings.multiSiteMode → organization.siteId = db.settings.siteId)) ∧
      match membership.campusId with
      | none => group = organizationUpdatesGroup membership.organizationId
      | some campusId => group = campusUpdatesGroup membership.organizationId campusId ∧
        ∃ campus ∈ db.campuses, campus.pk = campusId ∧ campus.isActive ∧
          campus.organizationId = membership.organizationId := by
  obtain ⟨membership, hmem, rfl⟩ := List.mem_map.mp h
  obtain ⟨hmem, hselected⟩ := List.mem_filter.mp (List.mem_mergeSort.mp hmem)
  simp only [MicboardConsumer.membershipSelected, Bool.and_eq_true, decide_eq_true_eq,
    List.any_eq_true] at hselected
  obtain ⟨⟨⟨⟨huser, hactive⟩, hrow⟩, organization, horganization, hpk⟩, hcampus⟩ := hselected
  have hsite : db.settings.multiSiteMode → organization.siteId = db.settings.siteId := by
    intro hmulti
    simpa [hmulti] using hpk.2
  refine ⟨membership, hmem, huser, hactive, hrow,
    ⟨organization, horganization, hpk.1.1, hpk.1.2, hsite⟩, ?_⟩
  cases hid : membership.campusId with
  | none => rfl
  | some campusId =>
      rw [hid] at hcampus
      simp only [List.any_eq_true, Bool.and_eq_true, decide_eq_true_eq] at hcampus
      obtain ⟨campus, hmem, ⟨hpk, hactive⟩, horganization⟩ := hcampus
      exact ⟨rfl, campus, hmem, hpk, hactive, horganization⟩

/-- What the check finds in the persisted state is an entitlement. -/
theorem authorizedFor_of_mem {userRead groupsRead : PersistedState} {userId : Nat} {group : String}
    (h : group ∈ MicboardConsumer.currentGroupNames groupsRead userId
      (MicboardConsumer.activeUser userRead userId)) :
    AuthorizedFor userRead groupsRead userId group := by
  cases huser : MicboardConsumer.activeUser userRead userId with
  | none =>
      rw [huser] at h
      cases h
  | some user =>
      rw [huser, MicboardConsumer.currentGroupNames] at h
      obtain ⟨hpk, hactive⟩ : user.pk = userId ∧ user.isActive = true := by
        simpa using List.find?_some huser
      refine ⟨user, List.mem_of_find?_eq_some huser, hpk, hactive, ?_⟩
      cases hmsp : groupsRead.settings.mspEnabled with
      | true =>
          simp only [hmsp, if_true] at h ⊢
          exact mem_membershipGroupNames h
      | false =>
          simp only [hmsp, Bool.false_eq_true, if_false] at h ⊢
          cases hsite : groupsRead.settings.multiSiteMode with
          | true =>
              simp only [hsite, if_true] at h ⊢
              cases hid : groupsRead.settings.siteId with
              | none =>
                  rw [hid] at h
                  cases h
              | some siteId =>
                  by_cases hpos : 0 < siteId
                  · rw [hid] at h
                    simp [RealtimeRoutingService.normalizeSiteId, hpos] at h
                    exact ⟨siteId, rfl, hpos, h⟩
                  · rw [hid] at h
                    simp [RealtimeRoutingService.normalizeSiteId, hpos] at h
          | false =>
              simp only [hsite, Bool.false_eq_true, if_false] at h ⊢
              split at h
              next hperm =>
                rw [Bool.and_eq_true] at hperm
                exact ⟨hperm.2, List.mem_singleton.mp h⟩
              next => cases h

/-- A check that read `userRead` and `groupsRead` shows the user of a connection active and entitled to
every group of `joined`, of which there is at least one. -/
def Cleared (user : Option ScopeUser) (joined : List String)
    (userRead groupsRead : PersistedState) : Prop :=
  joined ≠ [] ∧ ∃ scopeUser userId, user = some scopeUser ∧ scopeUser.isAuthenticated ∧
    scopeUser.pk = some userId ∧ ∀ group ∈ joined, AuthorizedFor userRead groupsRead userId group

/-- What holds of a connection between any two steps. -/
structure ConnectionInv {π : Type*} (connection : Connection π) : Prop where
  resolving : ∀ payload user userRead, connection.phase = .resolving payload user userRead →
    ∃ scopeUser userId, connection.user = some scopeUser ∧ scopeUser.isAuthenticated ∧
      scopeUser.pk = some userId ∧ user = MicboardConsumer.activeUser userRead userId
  sending : ∀ payload userRead groupsRead,
    connection.phase = .sending payload userRead groupsRead →
      Cleared connection.user connection.roomGroupNames userRead groupsRead
  forwarded : ∀ message ∈ connection.forwarded,
    Cleared message.user message.joined message.userRead message.groupsRead

/-- The connection is closed and has left its groups. -/
def Silenced {π : Type*} (connection : Connection π) : Prop :=
  connection.closed = true ∧ connection.roomGroupNames = []

section Invariant

variable {π ι : Type*} {connection : Connection π}

theorem connectionInv_opening (user : Option ScopeUser) :
    ConnectionInv (Connection.opening user : Connection π) where
  resolving := fun _ _ _ h => by cases h
  sending := fun _ _ _ h => by cases h
  forwarded := fun _ h => by cases h

theorem ConnectionInv.closeRevoked (h : ConnectionInv connection) :
    ConnectionInv connection.closeRevoked where
  resolving := fun _ _ _ hphase => by cases hphase
  sending := fun _ _ _ hphase => by cases hphase
  forwarded := h.forwarded

theorem ConnectionInv.connect (user : Option ScopeUser) (db : PersistedState) :
    ConnectionInv ((Connection.opening user : Connection π).connect db) := by
  have hopening := connectionInv_opening (π := π) user
  rw [Connection.connect]
  split
  next => exact ⟨hopening.resolving, hopening.sending, hopening.forwarded⟩
  next => exact ⟨hopening.resolving, hopening.sending, hopening.forwarded⟩
  next =>
    refine ⟨hopening.resolving, fun _ _ _ hphase => ?_, hopening.forwarded⟩
    cases hphase

/-- The first query refuses a connection whose user is not authenticated, and goes on otherwise. -/
theorem readUser_cases (connection : Connection π) (db : PersistedState) (payload : π) :
    (connection.readUser db payload = connection.closeRevoked ∧
      ∀ scopeUser userId, connection.user = some scopeUser → scopeUser.isAuthenticated = true →
        scopeUser.pk ≠ some userId) ∨
    ∃ scopeUser userId, connection.user = some scopeUser ∧ scopeUser.isAuthenticated = true ∧
      scopeUser.pk = some userId ∧ connection.readUser db payload =
        { connection with
          phase := .resolving payload (MicboardConsumer.activeUser db userId) db } := by
  rw [Connection.readUser]
  cases huser : connection.user with
  | none => exact .inl ⟨rfl, fun _ _ h => by cases h⟩
  | some scopeUser =>
      dsimp only
      cases hpk : scopeUser.pk with
      | none =>
          refine .inl ⟨rfl, fun other userId heq _ hother => ?_⟩
          cases heq
          cases hpk.symm.trans hother
      | some userId =>
          dsimp only
          cases hauthenticated : scopeUser.isAuthenticated with
          | false =>
              refine .inl ⟨rfl, fun other _ heq hother => ?_⟩
              cases heq
              cases hauthenticated.symm.trans hother
          | true => exact .inr ⟨scopeUser, userId, rfl, hauthenticated, hpk, rfl⟩

theorem ConnectionInv.readUser (h : ConnectionInv connection) (db : PersistedState) (payload : π) :
    ConnectionInv (connection.readUser db payload) := by
  rcases readUser_cases connection db payload with
    ⟨hrefused, -⟩ | ⟨scopeUser, userId, hscope, hauthenticated, hpk, hread⟩
  · rw [hrefused]
    exact h.closeRevoked
  · rw [hread]
    refine ⟨fun _ user userRead hphase => ?_, fun _ _ _ hphase => ?_, h.forwarded⟩
    · cases hphase
      exact ⟨scopeUser, userId, hscope, hauthenticated, hpk, rfl⟩
    · cases hphase

/-- The second query refuses a connection, or the reads of the check clear it. -/
theorem ConnectionInv.readGroups_cases (h : ConnectionInv connection) (db : PersistedState)
    {payload : π} {user : Option RealtimeUser} {userRead : PersistedState}
    (hphase : connection.phase = .resolving payload user userRead) :
    connection.readGroups db payload user userRead = connection.closeRevoked ∨
      Cleared connection.user connection.roomGroupNames userRead db ∧
        connection.readGroups db payload user userRead =
          { connection with phase := .sending payload userRead db } := by
  obtain ⟨scopeUser, userId, hscope, hauthenticated, hpk, rfl⟩ := h.resolving _ _ _ hphase
  have huserId : (connection.user.bind ScopeUser.pk).getD 0 = userId := by simp [hscope, hpk]
  rw [Connection.readGroups, huserId]
  split
  next => exact .inl rfl
  next hallowed =>
    rw [Bool.or_eq_true, not_or] at hallowed
    obtain ⟨hjoined, hall⟩ := hallowed
    refine .inr ⟨⟨by simpa using hjoined, scopeUser, userId, hscope, hauthenticated, hpk,
      fun group hgroup => authorizedFor_of_mem ?_⟩, rfl⟩
    have hall : ∀ group ∈ connection.roomGroupNames, group ∈ MicboardConsumer.currentGroupNames db
        userId (MicboardConsumer.activeUser userRead userId) := by simpa using hall
    exact hall group hgroup

theorem ConnectionInv.readGroups (h : ConnectionInv connection) (db : PersistedState) {payload : π}
    {user : Option RealtimeUser} {userRead : PersistedState}
    (hphase : connection.phase = .resolving payload user userRead) :
    ConnectionInv (connection.readGroups db payload user userRead) := by
  rcases h.readGroups_cases db hphase with hrefused | ⟨hcleared, hread⟩
  · rw [hrefused]
    exact h.closeRevoked
  · rw [hread]
    refine ⟨fun _ _ _ heq => ?_, fun _ _ _ heq => ?_, h.forwarded⟩
    · cases heq
    · cases heq
      exact hcleared

theorem ConnectionInv.send (h : ConnectionInv connection) {payload : π}
    {userRead groupsRead : PersistedState}
    (hphase : connection.phase = .sending payload userRead groupsRead) :
    ConnectionInv (connection.send payload userRead groupsRead) := by
  refine ⟨fun _ _ _ heq => ?_, fun _ _ _ heq => ?_, fun message hmessage => ?_⟩
  · cases heq
  · cases heq
  · rcases List.mem_cons.mp hmessage with rfl | hmessage
    · exact h.sending _ _ _ hphase
    · exact h.forwarded message hmessage

variable [DecidableEq ι] {state next : RealtimeState π ι}

theorem set_connections (i j : ι) (connection : Connection π) :
    (state.set i connection).connections j = if j = i then connection else state.connections j :=
  Function.update_apply ..

theorem connectionInv_set (h : ∀ j, ConnectionInv (state.connections j)) {i : ι}
    {connection : Connection π} (hconnection : ConnectionInv connection) (j : ι) :
    ConnectionInv ((state.set i connection).connections j) := by
  rw [set_connections]
  split
  next => exact hconnection
  next => exact h j

theorem connectionInv_step (h : ∀ j, ConnectionInv (state.connections j))
    (hstep : RealtimeStep state next) : ∀ j, ConnectionInv (next.connections j) := by
  cases hstep with
  | change db => exact h
  | connect i user hopening =>
      rw [hopening]
      exact connectionInv_set h (ConnectionInv.connect user state.db)
  | receive i payload hidle hrunning =>
      refine connectionInv_set h ⟨fun _ _ _ hphase => ?_, fun _ _ _ hphase => ?_, (h i).forwarded⟩
      · cases hphase
      · cases hphase
  | readUser i payload hphase => exact connectionInv_set h ((h i).readUser state.db payload)
  | readGroups i payload user userRead hphase =>
      exact connectionInv_set h ((h i).readGroups state.db hphase)
  | send i payload userRead groupsRead hphase => exact connectionInv_set h ((h i).send hphase)
  | oversized i hidle hrunning =>
      exact connectionInv_set h ⟨(h i).resolving, (h i).sending, (h i).forwarded⟩
  | disconnect i hidle =>
      exact connectionInv_set h ⟨(h i).resolving, (h i).sending, (h i).forwarded⟩

theorem connectionInv_run (h : ∀ j, ConnectionInv (state.connections j))
    (hrun : Relation.ReflTransGen RealtimeStep state next) :
    ∀ j, ConnectionInv (next.connections j) := by
  induction hrun with
  | refl => exact h
  | tail _ hstep ih => exact connectionInv_step ih hstep

/-- A silenced connection stays silenced and forwards nothing more. -/
def StaysSilent (before after : Connection π) : Prop :=
  Silenced before → Silenced after ∧ after.forwarded = before.forwarded

theorem staysSilent_set {i : ι} {connection : Connection π}
    (h : StaysSilent (state.connections i) connection) (j : ι) :
    StaysSilent (state.connections j) ((state.set i connection).connections j) := by
  rw [set_connections]
  split
  next heq =>
    rw [heq]
    exact h
  next => exact fun hsilenced => ⟨hsilenced, rfl⟩

theorem staysSilent_step (h : ∀ j, ConnectionInv (state.connections j))
    (hstep : RealtimeStep state next) (j : ι) :
    StaysSilent (state.connections j) (next.connections j) := by
  cases hstep with
  | change db => exact fun hsilenced => ⟨hsilenced, rfl⟩
  | connect i user hopening =>
      refine staysSilent_set (fun hsilenced => ?_) j
      rw [hopening] at hsilenced
      cases hsilenced.1
  | receive i payload hidle hrunning =>
      refine staysSilent_set (fun hsilenced => ?_) j
      exact ⟨hsilenced, rfl⟩
  | readUser i payload hphase =>
      refine staysSilent_set (fun hsilenced => ?_) j
      rcases readUser_cases (state.connections i) state.db payload with
        ⟨hrefused, -⟩ | ⟨_, _, -, -, -, hread⟩
      · rw [hrefused]
        exact ⟨⟨rfl, rfl⟩, rfl⟩
      · rw [hread]
        exact ⟨hsilenced, rfl⟩
  | readGroups i payload user userRead hphase =>
      refine staysSilent_set (fun hsilenced => ?_) j
      rcases (h i).readGroups_cases state.db hphase with hrefused | ⟨hcleared, -⟩
      · rw [hrefused]
        exact ⟨⟨rfl, rfl⟩, rfl⟩
      · exact absurd hsilenced.2 hcleared.1
  | send i payload userRead groupsRead hphase =>
      -- A silenced connection is in no group, so no check can have cleared it.
      refine staysSilent_set (fun hsilenced => ?_) j
      exact absurd hsilenced.2 ((h i).sending _ _ _ hphase).1
  | oversized i hidle hrunning =>
      refine staysSilent_set (fun hsilenced => ?_) j
      exact ⟨⟨rfl, hsilenced.2⟩, rfl⟩
  | disconnect i hidle =>
      refine staysSilent_set (fun hsilenced => ?_) j
      exact ⟨hsilenced, rfl⟩

theorem staysSilent_run (h : ∀ j, ConnectionInv (state.connections j))
    (hrun : Relation.ReflTransGen RealtimeStep state next) (j : ι) :
    StaysSilent (state.connections j) (next.connections j) := by
  induction hrun with
  | refl => exact fun hsilenced => ⟨hsilenced, rfl⟩
  | tail hrun hstep ih =>
      intro hsilenced
      obtain ⟨hmid, hsame⟩ := ih hsilenced
      obtain ⟨hnext, hforwarded⟩ := staysSilent_step (connectionInv_run h hrun) hstep j hmid
      exact ⟨hnext, hforwarded.trans hsame⟩

end Invariant

/-! ### Checks in a run -/

section Run

variable {π ι : Type*} [DecidableEq ι]

/-- A check of a connection that does not find it authorized, and the state it leaves: the client
may not connect, its user is not authenticated, or what the check has read does not clear it for
every group that it joined. -/
inductive FoundUnauthorized (i : ι) (state : RealtimeState π ι) : RealtimeState π ι → Prop where
  | connect (user : Option ScopeUser) (code : Nat)
      (hopening : state.connections i = Connection.opening user)
      (hrefused : MicboardConsumer.connectGroups state.db user = some (.error code)) :
      FoundUnauthorized i state (state.set i ((state.connections i).connect state.db))
  | readUser (payload : π) (hphase : (state.connections i).phase = .checking payload)
      (hrefused : ∀ scopeUser userId, (state.connections i).user = some scopeUser →
        scopeUser.isAuthenticated = true → scopeUser.pk ≠ some userId) :
      FoundUnauthorized i state (state.set i ((state.connections i).readUser state.db payload))
  | readGroups (payload : π) (user : Option RealtimeUser) (userRead : PersistedState)
      (hphase : (state.connections i).phase = .resolving payload user userRead)
      (hrefused : ¬ Cleared (state.connections i).user (state.connections i).roomGroupNames userRead
        state.db) :
      FoundUnauthorized i state
        (state.set i ((state.connections i).readGroups state.db payload user userRead))

variable {i : ι} {start state next : RealtimeState π ι}

theorem FoundUnauthorized.step (h : FoundUnauthorized i state next) : RealtimeStep state next := by
  cases h with
  | connect user code hopening hrefused => exact .connect i user hopening
  | readUser payload hphase hrefused => exact .readUser i payload hphase
  | readGroups payload user userRead hphase hrefused => exact .readGroups i payload user userRead hphase

theorem FoundUnauthorized.silenced (h : FoundUnauthorized i state next)
    (hstate : ∀ j, ConnectionInv (state.connections j)) :
    Silenced (next.connections i) ∧
      (next.connections i).forwarded = (state.connections i).forwarded := by
  cases h with
  | connect user code hopening hrefused =>
      have huser : (state.connections i).user = user := by rw [hopening]; rfl
      rw [set_connections, if_pos rfl, Connection.connect, huser, hrefused]
      exact ⟨⟨rfl, rfl⟩, rfl⟩
  | readUser payload hphase hrefused =>
      rw [set_connections, if_pos rfl]
      rcases readUser_cases (state.connections i) state.db payload with
        ⟨hclosed, -⟩ | ⟨scopeUser, userId, hscope, hauthenticated, hpk, -⟩
      · rw [hclosed]
        exact ⟨⟨rfl, rfl⟩, rfl⟩
      · exact absurd hpk (hrefused scopeUser userId hscope hauthenticated)
  | readGroups payload user userRead hphase hrefused =>
      rw [set_connections, if_pos rfl]
      rcases (hstate i).readGroups_cases state.db hphase with hclosed | ⟨hcleared, -⟩
      · rw [hclosed]
        exact ⟨⟨rfl, rfl⟩, rfl⟩
      · exact absurd hcleared hrefused

/-- In the run from `start` the connection has just made the first query of the check of a payload,
which saw `userRead` as the persisted state. -/
def UserRead (i : ι) (payload : π) (userRead : PersistedState) (start state : RealtimeState π ι) :
    Prop :=
  ∃ reading, Relation.ReflTransGen RealtimeStep start reading ∧
    Relation.ReflTransGen RealtimeStep reading state ∧ reading.db = userRead ∧
    (reading.connections i).phase = .checking payload ∧
    state.connections i = (reading.connections i).readUser reading.db payload

/-- It has just made the others after the first one; they saw `groupsRead`. -/
def GroupsRead (i : ι) (payload : π) (userRead groupsRead : PersistedState)
    (start state : RealtimeState π ι) : Prop :=
  ∃ reading user, UserRead i payload userRead start reading ∧
    Relation.ReflTransGen RealtimeStep reading state ∧ reading.db = groupsRead ∧
    (reading.connections i).phase = .resolving payload user userRead ∧
    state.connections i = (reading.connections i).readGroups reading.db payload user userRead

/-- The message was sent right after a check of its payload, which saw the states kept with it. -/
def SentAfterCheck (i : ι) (message : Forwarded π) (start state : RealtimeState π ι) : Prop :=
  ∃ sending, GroupsRead i message.payload message.userRead message.groupsRead start sending ∧
    Relation.ReflTransGen RealtimeStep sending state ∧
    (sending.connections i).phase =
      .sending message.payload message.userRead message.groupsRead ∧
    message.user = (sending.connections i).user ∧
    message.joined = (sending.connections i).roomGroupNames

/-- The reads a connection carries are those of the run. -/
structure Traced (i : ι) (start state : RealtimeState π ι) : Prop where
  resolving : ∀ payload user userRead,
    (state.connections i).phase = .resolving payload user userRead →
      UserRead i payload userRead start state
  sending : ∀ payload userRead groupsRead,
    (state.connections i).phase = .sending payload userRead groupsRead →
      GroupsRead i payload userRead groupsRead start state
  forwarded : ∀ message ∈ (state.connections i).forwarded, SentAfterCheck i message start state

theorem SentAfterCheck.tail {message : Forwarded π} (h : SentAfterCheck i message start state)
    (hstep : RealtimeStep state next) : SentAfterCheck i message start next := by
  obtain ⟨sending, hread, hrun, hsent⟩ := h
  exact ⟨sending, hread, hrun.tail hstep, hsent⟩

/-- Where a step leaves a connection as it is, its reads are still those of the run. -/
theorem Traced.other (h : Traced i start state) (hstep : RealtimeStep state next)
    (hsame : next.connections i = state.connections i) : Traced i start next := by
  constructor
  · intro payload user userRead hphase
    rw [hsame] at hphase
    obtain ⟨reading, hstart, hrun, hread, hchecking, hconnection⟩ := h.resolving _ _ _ hphase
    exact ⟨reading, hstart, hrun.tail hstep, hread, hchecking, hsame.trans hconnection⟩
  · intro payload userRead groupsRead hphase
    rw [hsame] at hphase
    obtain ⟨reading, user, huser, hrun, hread, hresolving, hconnection⟩ := h.sending _ _ _ hphase
    exact ⟨reading, user, huser, hrun.tail hstep, hread, hresolving, hsame.trans hconnection⟩
  · intro message hmessage
    rw [hsame] at hmessage
    exact (h.forwarded message hmessage).tail hstep

/-- Where a step leaves a connection in no check, only its messages count. -/
theorem Traced.idle (h : Traced i start state) (hstep : RealtimeStep state next)
    (hphase : (next.connections i).phase = .idle ∨
      ∃ payload, (next.connections i).phase = .checking payload)
    (hforwarded : (next.connections i).forwarded = (state.connections i).forwarded) :
    Traced i start next := by
  refine ⟨fun _ _ _ hreading => ?_, fun _ _ _ hreading => ?_, fun message hmessage => ?_⟩
  · rcases hphase with hphase | ⟨payload, hphase⟩ <;> cases hphase.symm.trans hreading
  · rcases hphase with hphase | ⟨payload, hphase⟩ <;> cases hphase.symm.trans hreading
  · rw [hforwarded] at hmessage
    exact (h.forwarded message hmessage).tail hstep

/-- The first query of a check ends it, or sees the state it is made in. -/
theorem Traced.readUser {payload : π} (hstart : Relation.ReflTransGen RealtimeStep start state)
    (h : Traced i start state) (hphase : (state.connections i).phase = .checking payload) :
    Traced i start (state.set i ((state.connections i).readUser state.db payload)) := by
  have hset : (state.set i ((state.connections i).readUser state.db payload)).connections i =
      (state.connections i).readUser state.db payload := by rw [set_connections, if_pos rfl]
  have hstep := RealtimeStep.readUser i payload hphase
  rcases readUser_cases (state.connections i) state.db payload with
    ⟨hrefused, -⟩ | ⟨scopeUser, userId, -, -, -, hread⟩
  · refine h.idle hstep (.inl ?_) ?_
    · rw [hset, hrefused]
      rfl
    · rw [hset, hrefused]
      rfl
  · refine ⟨fun payload' user userRead heq => ?_, fun _ _ _ heq => ?_, fun message hmessage => ?_⟩
    · rw [hset, hread] at heq
      cases heq
      exact ⟨state, hstart, .single hstep, rfl, hphase, hset⟩
    · rw [hset, hread] at heq
      cases heq
    · rw [hset, hread] at hmessage
      exact (h.forwarded message hmessage).tail hstep

/-- The queries after the first one end a check, or see the state they are made in. -/
theorem Traced.readGroups {payload : π} {user : Option RealtimeUser} {userRead : PersistedState}
    (hstate : ConnectionInv (state.connections i)) (h : Traced i start state)
    (hphase : (state.connections i).phase = .resolving payload user userRead) :
    Traced i start
      (state.set i ((state.connections i).readGroups state.db payload user userRead)) := by
  have hset : (state.set i ((state.connections i).readGroups state.db payload user
      userRead)).connections i = (state.connections i).readGroups state.db payload user
        userRead := by rw [set_connections, if_pos rfl]
  have hstep := RealtimeStep.readGroups i payload user userRead hphase
  rcases hstate.readGroups_cases state.db hphase with hrefused | ⟨-, hread⟩
  · refine h.idle hstep (.inl ?_) ?_
    · rw [hset, hrefused]
      rfl
    · rw [hset, hrefused]
      rfl
  · refine ⟨fun _ _ _ heq => ?_, fun _ _ _ heq => ?_, fun message hmessage => ?_⟩
    · rw [hset, hread] at heq
      cases heq
    · rw [hset, hread] at heq
      cases heq
      exact ⟨state, user, h.resolving _ _ _ hphase, .single hstep, rfl, hphase, hset⟩
    · rw [hset, hread] at hmessage
      exact (h.forwarded message hmessage).tail hstep

/-- A send adds the message whose check has just ended. -/
theorem Traced.send {payload : π} {userRead groupsRead : PersistedState} (h : Traced i start state)
    (hphase : (state.connections i).phase = .sending payload userRead groupsRead) :
    Traced i start
      (state.set i ((state.connections i).send payload userRead groupsRead)) := by
  have hset : (state.set i ((state.connections i).send payload userRead groupsRead)).connections i =
      (state.connections i).send payload userRead groupsRead := by rw [set_connections, if_pos rfl]
  have hstep := RealtimeStep.send i payload userRead groupsRead hphase
  refine ⟨fun _ _ _ heq => ?_, fun _ _ _ heq => ?_, fun message hmessage => ?_⟩
  · rw [hset] at heq
    cases heq
  · rw [hset] at heq
    cases heq
  · rw [hset] at hmessage
    rcases List.mem_cons.mp hmessage with rfl | hmessage
    · exact ⟨state, h.sending _ _ _ hphase, .single hstep, hphase, rfl, rfl⟩
    · exact (h.forwarded message hmessage).tail hstep

theorem traced_step (hstart : Relation.ReflTransGen RealtimeStep start state)
    (hstate : ∀ j, ConnectionInv (state.connections j)) (h : Traced i start state)
    (hstep : RealtimeStep state next) : Traced i start next := by
  have hother : ∀ (j : ι) (connection : Connection π), next = state.set j connection → i ≠ j →
      Traced i start next := by
    rintro j connection rfl hne
    exact h.other hstep (by rw [set_connections, if_neg hne])
  cases hstep with
  | change db => exact h.other (.change db) rfl
  | connect j user hopening =>
      by_cases hij : i = j
      · subst hij
        have hconnect : ((state.connections i).connect state.db).phase = .idle ∧
            ((state.connections i).connect state.db).forwarded = (state.connections i).forwarded := by
          rw [hopening, Connection.connect]
          split <;> exact ⟨rfl, rfl⟩
        have hset : (state.set i ((state.connections i).connect state.db)).connections i =
            (state.connections i).connect state.db := by rw [set_connections, if_pos rfl]
        refine h.idle (.connect i user hopening) (.inl ?_) ?_
        · rw [hset, hconnect.1]
        · rw [hset, hconnect.2]
      · exact hother j _ rfl hij
  | receive j payload hidle hrunning =>
      by_cases hij : i = j
      · subst hij
        refine h.idle (.receive i payload hidle hrunning) (.inr ⟨payload, ?_⟩) ?_
        · rw [set_connections, if_pos rfl]
        · rw [set_connections, if_pos rfl]
      · exact hother j _ rfl hij
  | readUser j payload hphase =>
      by_cases hij : i = j
      · subst hij
        exact h.readUser hstart hphase
      · exact hother j _ rfl hij
  | readGroups j payload user userRead hphase =>
      by_cases hij : i = j
      · subst hij
        exact h.readGroups (hstate i) hphase
      · exact hother j _ rfl hij
  | send j payload userRead groupsRead hphase =>
      by_cases hij : i = j
      · subst hij
        exact h.send hphase
      · exact hother j _ rfl hij
  | oversized j hidle hrunning =>
      by_cases hij : i = j
      · subst hij
        refine h.idle (.oversized i hidle hrunning) (.inl ?_) ?_
        · rw [set_connections, if_pos rfl]
          exact hidle
        · rw [set_connections, if_pos rfl]
      · exact hother j _ rfl hij
  | disconnect j hidle =>
      by_cases hij : i = j
      · subst hij
        refine h.idle (.disconnect i hidle) (.inl ?_) ?_
        · rw [set_connections, if_pos rfl]
          exact hidle
        · rw [set_connections, if_pos rfl]
          rfl
      · exact hother j _ rfl hij

theorem traced_run (hstart : ∀ j, ∃ user, start.connections j = Connection.opening user)
    (hinv : ∀ j, ConnectionInv (start.connections j))
    (hrun : Relation.ReflTransGen RealtimeStep start state) : Traced i start state := by
  induction hrun with
  | refl =>
      obtain ⟨user, huser⟩ := hstart i
      refine ⟨fun _ _ _ hphase => ?_, fun _ _ _ hphase => ?_, fun _ hmessage => ?_⟩
      · rw [huser] at hphase
        cases hphase
      · rw [huser] at hphase
        cases hphase
      · rw [huser] at hmessage
        cases hmessage
  | tail hrun hstep ih => exact traced_step hrun (connectionInv_run hinv hrun) ih hstep

/-- **Authorization over time. Whatever the connections do and whatever changes in between: a payload is
sent right after a check of it that read the persisted state of the moment and found the user active and
entitled to every group the connection joined; and a connection that a check has not found authorized is
closed and forwards nothing in any later state, whatever becomes of the membership.** -/
theorem realtime_authorization
    (hstart : ∀ i, ∃ user, start.connections i = Connection.opening user)
    (hrun : Relation.ReflTransGen RealtimeStep start state) (i : ι) :
    (∀ message ∈ (state.connections i).forwarded, SentAfterCheck i message start state ∧
      Cleared message.user message.joined message.userRead message.groupsRead) ∧
    ∀ next later, FoundUnauthorized i state next →
      Relation.ReflTransGen RealtimeStep next later →
        (later.connections i).closed = true ∧
          (later.connections i).forwarded = (state.connections i).forwarded := by
  have hopening : ∀ j, ConnectionInv (start.connections j) := by
    intro j
    obtain ⟨user, huser⟩ := hstart j
    rw [huser]
    exact connectionInv_opening user
  have hstate := connectionInv_run hopening hrun
  have htraced : Traced i start state := traced_run hstart hopening hrun
  refine ⟨fun message hmessage => ⟨htraced.forwarded message hmessage,
    (hstate i).forwarded message hmessage⟩, fun next later hfound hlater => ?_⟩
  obtain ⟨hsilenced, hsame⟩ := hfound.silenced hstate
  have hnext := connectionInv_step hstate hfound.step
  obtain ⟨⟨hclosed, -⟩, hforwarded⟩ := staysSilent_run hnext hlater i hsilenced
  exact ⟨hclosed, hforwarded.trans hsame⟩

end Run

/-- A single-site deployment whose only user may view the global stream, or has lost the permission. -/
def oneViewer (canViewRealtime : Bool) : PersistedState where
  settings := ⟨false, false, none⟩
  users := [⟨1, true, canViewRealtime⟩]
  organizations := []
  campuses := []
  memberships := []

def viewerOpening : RealtimeState String Unit :=
  ⟨oneViewer true, fun _ => Connection.opening (some ⟨some 1, true, true, true⟩)⟩

/-- The viewer is sent an update, loses the permission while the next one is checked, and stays
silent when the permission is back. -/
theorem realtime_authorization_oneViewer : ∃ state next later : RealtimeState String Unit,
    Relation.ReflTransGen RealtimeStep viewerOpening state ∧ FoundUnauthorized () state next ∧
    later.db = oneViewer true ∧ (state.connections ()).forwarded.length = 1 ∧
    (∀ message ∈ (state.connections ()).forwarded, SentAfterCheck () message viewerOpening state ∧
      Cleared message.user message.joined message.userRead message.groupsRead) ∧
    (later.connections ()).closed = true ∧
    (later.connections ()).forwarded = (state.connections ()).forwarded := by
  have hstart : ∀ i : Unit, ∃ user, viewerOpening.connections i = Connection.opening user :=
    fun _ => ⟨_, rfl⟩
  have hsent := ((((Relation.ReflTransGen.refl (r := RealtimeStep) (a := viewerOpening)).tail
    (.connect () _ rfl)).tail (.receive () "first" rfl rfl)).tail (.readUser () "first" rfl)).tail
      (.readGroups () "first" (some ⟨1, true, true⟩) (oneViewer true) rfl) |>.tail
        (.send () "first" (oneViewer true) (oneViewer true) rfl)
  have hrun := ((hsent.tail (.receive () "second" rfl rfl)).tail (.change (oneViewer false))).tail
    (.readUser () "second" rfl)
  obtain ⟨hmessages, hsilent⟩ := realtime_authorization hstart hrun ()
  have hrevoked : ¬ Cleared (some ⟨some 1, true, true, true⟩) [globalUpdatesGroup] (oneViewer false)
      (oneViewer false) := by
    rintro ⟨-, scopeUser, userId, -, -, -, hgroups⟩
    obtain ⟨user, huser, -, -, hview, -⟩ := hgroups _ List.mem_cons_self
    obtain rfl := List.mem_singleton.mp huser
    cases hview
  refine ⟨_, _, _, hrun, .readGroups "second" (some ⟨1, true, false⟩) (oneViewer false) rfl hrevoked,
    ?_, rfl, hmessages, hsilent _ _ (.readGroups "second" (some ⟨1, true, false⟩) (oneViewer false) rfl
      hrevoked) (.single (.change (oneViewer true)))⟩
  rfl

end Micboard
