import TTSignal.Http.IdleMap
import TTSignal.Runs

/-!
# Every idle channel is filed once, under its key

Whatever the threads of a connector do, the map of idle channels has the channels that the
connector has in its list, in the same order: each key that is there has between one and as
many as are allowed, each channel stands once, under its own key, and none that has been taken
or has closed is left.
-/

namespace Http

open Tcp (BCResult)

namespace HttpConnector

variable {s s' : HttpConnector}

/-- The idle channels of a key, in order. -/
def vector (idle : List (String × PooledId)) (key : String) : List PooledId :=
  (idle.filter fun e => e.1 = key).map Prod.snd

/-- A channel is added to its key. -/
theorem vector_append (idle : List (String × PooledId)) (k key : String) (p : PooledId) :
    vector (idle ++ [(k, p)]) key =
      if key = k then vector idle k ++ [p] else vector idle key := by
  unfold vector
  rw [List.filter_append, List.map_append]
  split
  · rename_i heq
    rw [heq]
    simp
  · rename_i hne
    simp [Ne.symm hne]

/-- A channel is removed from its key. -/
theorem vector_erase (idle : List (String × PooledId)) (k key : String) (p : PooledId) :
    vector (idle.erase (k, p)) key =
      if key = k then (vector idle k).erase p else vector idle key := by
  induction idle with
  | nil => simp [vector]
  | cons e idle ih =>
    obtain ⟨l, q⟩ := e
    have hcons (m : String) : vector ((l, q) :: idle) m =
        if l = m then q :: vector idle m else vector idle m := by
      unfold vector
      rw [List.filter_cons]
      by_cases hm : l = m <;> simp [hm]
    by_cases hfirst : (l, q) = (k, p)
    · obtain ⟨rfl, rfl⟩ := Prod.mk.inj hfirst
      rw [List.erase_cons_head, hcons, hcons]
      by_cases hkey : key = l
      · rw [hkey, if_pos rfl, if_pos rfl, List.erase_cons_head]
      · rw [if_neg hkey, if_neg (Ne.symm hkey)]
    · have hstays : ((l, q) :: idle).erase (k, p) = (l, q) :: idle.erase (k, p) :=
        List.erase_cons_tail (by simpa using hfirst)
      have hrest (m : String) : vector ((l, q) :: idle.erase (k, p)) m =
          if l = m then q :: vector (idle.erase (k, p)) m else vector (idle.erase (k, p)) m := by
        unfold vector
        rw [List.filter_cons]
        by_cases hm : l = m <;> simp [hm]
      rw [hstays, hrest, ih, hcons, hcons]
      by_cases hkey : key = k
      · rw [hkey, if_pos rfl, if_pos rfl]
        by_cases hl : l = k
        · have hq : q ≠ p := by
            rintro rfl
            exact hfirst (by rw [hl])
          rw [if_pos hl, if_pos hl, List.erase_cons_tail (by simpa using hq)]
        · rw [if_neg hl, if_neg hl]
      · rw [if_neg hkey, if_neg hkey]

/-- The channel that is taken is the last of its key. -/
theorem takeFromPool_eq (s : HttpConnector) (key : String) :
    s.takeFromPool key = (vector s.idle key).getLast? := by
  rw [takeFromPool, vector, List.getLast?_map]

/-- The channels of a key are counted. -/
theorem countP_eq (s : HttpConnector) (key : String) :
    (s.idle.countP fun e => e.1 = key) = (vector s.idle key).length := by
  rw [vector, List.length_map, List.countP_eq_length_filter]

/-- What `OnChannelClosed` of a pooled channel does to the pool. -/
theorem onPooledClosed_pool (s : HttpConnector) (p : PooledId) :
    (s.onPooledClosed p).idle = s.idle.erase ((s.pooled p).key, p) ∧
      (s.onPooledClosed p).maxIdlePerKey = s.maxIdlePerKey ∧
      (s.onPooledClosed p).nextPooled = s.nextPooled ∧
      (s.onPooledClosed p).channel = s.channel ∧
      ∀ q, ((s.onPooledClosed p).pooled q).key = (s.pooled q).key := by
  unfold onPooledClosed
  split
  · refine ⟨rfl, rfl, rfl, rfl, fun q => ?_⟩
    simp only [setPooled, setPooledStage, Function.update_apply]
    split
    · rename_i heq
      rw [heq]
    · rfl
  · exact ⟨rfl, rfl, rfl, rfl, fun _ => rfl⟩

/-- An event that does not use the map changes nothing about it. -/
theorem aside_step {e : Thread × Event} (h : s.idleUse e = .none) : s.Aside (s.step e) := by
  obtain ⟨t, e⟩ := e
  unfold idleUse at h
  unfold step
  split at h
  · rename_i hbusy
    rw [if_pos hbusy]
    exact Aside.refl s
  · rename_i hfree
    rw [if_neg hfree]
    refine Changes.aside (q := True) (changes_handle t ?_ ?_ ?_ fun _ => trivial)
    · rintro r result rfl hphase hmax
      simp [hphase, hmax] at h
    · rintro ch result finishes rfl hnow p hp
      simp [hnow, hp] at h
    · rintro c result rfl ch hpark
      simp [hpark] at h

/-- An event that takes a channel is the section of `_TakeFromPool` in a call of `Request`. -/
theorem step_of_take {e : Thread × Event} {key : String} (h : s.idleUse e = .take key) :
    ∃ r, s.maxIdlePerKey ≠ 0 ∧ key = (s.request r).key ∧ s.step e = s.proceedTake r := by
  obtain ⟨t, e⟩ := e
  unfold idleUse at h
  split at h
  · cases h
  · rename_i hfree
    cases e with
    | proceed r result =>
      simp only at h
      split at h
      · rename_i hphase
        split at h
        · cases h
        · rename_i hmax
          refine ⟨r, hmax, (IdleUse.take.inj h).symm, ?_⟩
          unfold step
          rw [if_neg hfree, handle, proceed, hphase]
      · cases h
    | closed ch result finishes =>
      simp only at h
      split at h
      · split at h <;> cases h
      · cases h
    | resume c result =>
      simp only at h
      split at h <;> cases h
    | _ => cases h

/-- An event that removes a channel is its close. -/
theorem step_of_remove {e : Thread × Event} {p : PooledId} (h : s.idleUse e = .remove p) :
    ∃ ch, (s.channel ch).handler = some (.pooled p) ∧
      s.step e = (s.setChannel ch { s.channel ch with state := .closed }).onPooledClosed p := by
  obtain ⟨t, e⟩ := e
  unfold idleUse at h
  split at h
  · cases h
  · rename_i hfree
    cases e with
    | closed ch result finishes =>
      simp only at h
      split at h
      · rename_i hnow
        split at h
        · rename_i q hhandler
          obtain rfl := IdleUse.remove.inj h
          refine ⟨ch, hhandler, ?_⟩
          unfold step
          rw [if_neg hfree, handle, onClosed, if_pos hnow, hhandler]
        · cases h
      · cases h
    | proceed r result =>
      simp only at h
      split at h
      · split at h <;> cases h
      · cases h
    | resume c result =>
      simp only at h
      split at h <;> cases h
    | _ => cases h

/-- An event that files a channel is the section of `_FinishAndReturnChannelToPool`. -/
theorem step_of_file {e : Thread × Event} {c : ConnectionId} (h : s.idleUse e = .file c) :
    ∃ ch, s.step e = s.returnToPool c ch := by
  obtain ⟨t, e⟩ := e
  unfold idleUse at h
  split at h
  · cases h
  · rename_i hfree
    cases e with
    | resume c' result =>
      simp only at h
      split at h
      · rename_i ch hactivity
        obtain rfl := IdleUse.file.inj h
        refine ⟨ch, ?_⟩
        unfold step
        rw [if_neg hfree, handle, resume, hactivity]
      · cases h
    | proceed r result =>
      simp only at h
      split at h
      · split at h <;> cases h
      · cases h
    | closed ch result finishes =>
      simp only at h
      split at h
      · split at h <;> cases h
      · cases h
    | _ => cases h

end HttpConnector

open HttpConnector

/-- The map and the connector agree, and the map is in order. -/
structure Filed (n : ℕ) (f : Filing) : Prop where
  /-- How many channels a key may have. -/
  max_eq : f.connector.maxIdlePerKey = n
  /-- No key is without channels. -/
  tidy : f.idle.Tidy
  /-- The map has the channels that the connector has. -/
  vector_eq : ∀ key, f.idle.bucket key = vector f.connector.idle key
  /-- No key has too many. -/
  length_le : ∀ key, (f.idle.bucket key).length ≤ n
  /-- No key has one twice. -/
  nodup : ∀ key, (f.idle.bucket key).Nodup
  /-- Each has been made, and is under its own key. -/
  own : ∀ key, ∀ p ∈ f.idle.bucket key,
    p < f.connector.nextPooled ∧ (f.connector.pooled p).key = key
  /-- A pooled channel that is a handler has been made. -/
  handler : ∀ ch p, (f.connector.channel ch).handler = some (.pooled p) →
    p < f.connector.nextPooled
  /-- What has been taken or has closed is not there. -/
  left : ∀ p, p ∈ f.taken ∨ p ∈ f.closed →
    p < f.connector.nextPooled ∧ ∀ key, p ∉ f.idle.bucket key

namespace Filed

variable {n : ℕ} {f f' : Filing}

/-- Channels leave the map, and no new one is made. -/
theorem shrink (h : Filed n f) (hmax : f'.connector.maxIdlePerKey = f.connector.maxIdlePerKey)
    (htidy : f'.idle.Tidy) (hvector : ∀ key, f'.idle.bucket key = vector f'.connector.idle key)
    (hsub : ∀ key, (f'.idle.bucket key).Sublist (f.idle.bucket key))
    (hnext : f'.connector.nextPooled = f.connector.nextPooled)
    (hkey : ∀ p, (f'.connector.pooled p).key = (f.connector.pooled p).key)
    (hhandler : ∀ ch p, (f'.connector.channel ch).handler = some (.pooled p) →
      (f.connector.channel ch).handler = some (.pooled p))
    (hleft : ∀ p, p ∈ f'.taken ∨ p ∈ f'.closed → (p ∈ f.taken ∨ p ∈ f.closed) ∨
      p < f.connector.nextPooled ∧ ∀ key, p ∉ f'.idle.bucket key) : Filed n f' where
  max_eq := hmax.trans h.max_eq
  tidy := htidy
  vector_eq := hvector
  length_le key := (hsub key).length_le.trans (h.length_le key)
  nodup key := (h.nodup key).sublist (hsub key)
  own key p hp := by
    rw [hnext, hkey]
    exact h.own key p ((hsub key).subset hp)
  handler ch p hp := by
    rw [hnext]
    exact h.handler ch p (hhandler ch p hp)
  left p hp := by
    rw [hnext]
    rcases hleft p hp with hold | hnew
    · obtain ⟨hlt, hnone⟩ := h.left p hold
      exact ⟨hlt, fun key hmem => hnone key ((hsub key).subset hmem)⟩
    · exact hnew

/-- What does not concern the idle channels leaves the map in order. -/
theorem aside (h : Filed n f) {s' : HttpConnector} (hs : f.connector.Aside s') :
    Filed n { f with connector := s' } :=
  h.shrink hs.maxIdlePerKey h.tidy (fun key => by rw [hs.idle]; exact h.vector_eq key)
    (fun _ => List.Sublist.refl _) hs.nextPooled hs.key hs.handler fun _ hp => .inl hp

/-- A list without its last entry is one without that entry. -/
theorem dropLast_eq_erase {l : List PooledId} {p : PooledId} (hnodup : l.Nodup)
    (hlast : l.getLast? = some p) : l.dropLast = l.erase p := by
  obtain ⟨front, rfl⟩ := List.getLast?_eq_some_iff.mp hlast
  have hp : p ∉ front := fun hmem => by
    have hdisjoint := (List.nodup_append.mp hnodup).2.2
    exact hdisjoint p hmem p (List.mem_singleton_self p) rfl
  rw [List.dropLast_concat, List.erase_append_right _ hp, List.erase_cons_head, List.append_nil]

/-- A channel that is removed under its own key is under no key. -/
theorem notMem_of_own (h : Filed n f) {p : PooledId} {entries : String → List PooledId}
    (hentries : ∀ key, entries key = if key = (f.connector.pooled p).key then
      (f.idle.bucket (f.connector.pooled p).key).erase p else f.idle.bucket key) (key : String) :
    p ∉ entries key := by
  rw [hentries]
  split
  · exact (h.nodup _).not_mem_erase
  · rename_i hne
    exact fun hmem => hne (h.own key p hmem).2.symm

/-- `_TakeFromPool`. -/
theorem take (h : Filed n f) (r : RequestId) (hmax : f.connector.maxIdlePerKey ≠ 0) :
    Filed n { f.use (.take (f.connector.request r).key) with
      connector := f.connector.proceedTake r } := by
  have hpop := (f.idle.pop_fst (f.connector.request r).key).trans
    (congrArg List.getLast? (h.vector_eq _))
  rw [← takeFromPool_eq] at hpop
  have hbucket := f.idle.bucket_pop (f.connector.request r).key
  cases htaken : f.connector.takeFromPool (f.connector.request r).key with
  | none =>
    have heq : f.connector.proceedTake r = f.connector.setPhase r (.insert none) := by
      unfold proceedTake
      rw [if_neg hmax, htaken]
    have hempty : f.idle.bucket (f.connector.request r).key = [] := by
      rw [h.vector_eq]
      rw [takeFromPool_eq] at htaken
      exact List.getLast?_eq_none_iff.mp htaken
    have hsame (key : String) : (f.idle.pop (f.connector.request r).key).2.bucket key =
        f.idle.bucket key := by
      rw [hbucket]
      split
      · rename_i hkey
        rw [hkey, hempty]
        rfl
      · rfl
    rw [heq]
    refine h.shrink rfl (h.tidy.pop _) (fun key => (hsame key).trans (h.vector_eq key))
      (fun key => ?_) rfl (fun _ => rfl) (fun _ _ hp => hp) fun p hp => ?_
    · rw [Filing.use, hsame]
    · rw [Filing.use, hpop, htaken] at hp
      exact .inl (by simpa using hp)
  | some p =>
    have heq : f.connector.proceedTake r =
        (f.connector.take r p).setPhase r (.insert (some p)) := by
      unfold proceedTake
      rw [if_neg hmax, htaken]
    have hlast : (f.idle.bucket (f.connector.request r).key).getLast? = some p := by
      rw [h.vector_eq, ← takeFromPool_eq, htaken]
    have hmem := List.mem_of_getLast? hlast
    obtain ⟨hlt, hkey⟩ := h.own _ p hmem
    have hafter (key : String) : (f.idle.pop (f.connector.request r).key).2.bucket key =
        if key = (f.connector.pooled p).key then
          (f.idle.bucket (f.connector.pooled p).key).erase p else f.idle.bucket key := by
      rw [hbucket, hkey, dropLast_eq_erase (h.nodup _) hlast]
    rw [heq]
    refine h.shrink rfl (h.tidy.pop _) (fun key => ?_) (fun key => ?_) rfl (fun q => ?_)
      (fun _ _ hp => hp) fun q hq => ?_
    · change (f.idle.pop _).2.bucket key =
        vector (f.connector.idle.erase ((f.connector.pooled p).key, p)) key
      rw [hafter, vector_erase, h.vector_eq, h.vector_eq]
    · change ((f.idle.pop _).2.bucket key).Sublist _
      rw [hafter]
      split
      · rename_i hown
        rw [hown]
        exact List.erase_sublist
      · exact List.Sublist.refl _
    · change ((f.connector.take r p).pooled q).key = _
      simp only [HttpConnector.take, setPooled, setPooledStage, Function.update_apply]
      split
      · rename_i hq
        rw [hq]
      · rfl
    · rw [Filing.use, hpop, htaken] at hq
      rcases hq with hq | hq
      · rcases List.mem_append.mp hq with hq | hq
        · exact .inl (.inl hq)
        · have hqp : q = p := by simpa using hq
          rw [hqp]
          exact .inr ⟨hlt, h.notMem_of_own hafter⟩
      · exact .inl (.inr hq)

/-- `_RemoveFromPoolLocked`. -/
theorem remove (h : Filed n f) {ch : ChannelId} {p : PooledId} {s' : HttpConnector}
    (hp : (f.connector.channel ch).handler = some (.pooled p))
    (hs : f.connector.Aside s') (hpooled : s'.pooled = f.connector.pooled) :
    Filed n { f.use (.remove p) with connector := s'.onPooledClosed p } := by
  obtain ⟨hidle, hmax, hnext, hchannel, hkey⟩ := s'.onPooledClosed_pool p
  have hafter := f.idle.bucket_remove (f.connector.pooled p).key p
  refine h.shrink (hmax.trans hs.maxIdlePerKey) (h.tidy.remove _ _) (fun key => ?_) (fun key => ?_)
    (hnext.trans hs.nextPooled) (fun q => (hkey q).trans (hs.key q)) (fun ch' q hq => ?_)
    fun q hq => ?_
  · change (f.idle.remove _ _).bucket key = vector (s'.onPooledClosed p).idle key
    rw [hafter, hidle, hs.idle, hpooled, vector_erase, h.vector_eq, h.vector_eq]
  · change ((f.idle.remove _ _).bucket key).Sublist _
    rw [hafter]
    split
    · rename_i hown
      rw [hown]
      exact List.erase_sublist
    · exact List.Sublist.refl _
  · rw [hchannel] at hq
    exact hs.handler ch' q hq
  · rcases hq with hq | hq
    · exact .inl (.inl hq)
    · rcases List.mem_append.mp hq with hq | hq
      · exact .inl (.inr hq)
      · rw [List.mem_singleton.mp hq]
        exact .inr ⟨h.handler ch p hp, h.notMem_of_own hafter⟩

/-- The connector finds room in its list where there is room in the map. -/
theorem hasRoom_iff (h : Filed n f) (key : String) :
    f.HasRoom key ↔ f.connector.HasRoom key := by
  unfold Filing.HasRoom HttpConnector.HasRoom
  rw [countP_eq, h.vector_eq]

/-- A new pooled channel is made; it is filed under its key if there is room. -/
theorem grow (h : Filed n f) {key : String}
    (hmax : f'.connector.maxIdlePerKey = f.connector.maxIdlePerKey)
    (hnext : f'.connector.nextPooled = f.connector.nextPooled + 1)
    (hnew : (f'.connector.pooled f.connector.nextPooled).key = key)
    (hold : ∀ p, p ≠ f.connector.nextPooled →
      (f'.connector.pooled p).key = (f.connector.pooled p).key)
    (hhandler : ∀ ch p, (f'.connector.channel ch).handler = some (.pooled p) →
      (f.connector.channel ch).handler = some (.pooled p) ∨ p = f.connector.nextPooled)
    (hlists : f'.taken = f.taken ∧ f'.closed = f.closed)
    (hfiled : f'.idle = f.idle ∧ f'.connector.idle = f.connector.idle ∨
      (f.idle.bucket key).length < n ∧ f'.idle = f.idle.push key f.connector.nextPooled ∧
        f'.connector.idle = f.connector.idle ++ [(key, f.connector.nextPooled)]) :
    Filed n f' := by
  have hfresh (k : String) : f.connector.nextPooled ∉ f.idle.bucket k := fun hmem =>
    absurd (h.own k _ hmem).1 (Nat.lt_irrefl _)
  have hkept (k : String) (p : PooledId) (hp : p ∈ f.idle.bucket k) :
      p < f'.connector.nextPooled ∧ (f'.connector.pooled p).key = k := by
    obtain ⟨hlt, hkey⟩ := h.own k p hp
    exact ⟨hnext ▸ Nat.lt_succ_of_lt hlt, (hold p hlt.ne).trans hkey⟩
  have hmade (ch : ChannelId) (p : PooledId)
      (hp : (f'.connector.channel ch).handler = some (.pooled p)) :
      p < f'.connector.nextPooled := by
    rw [hnext]
    rcases hhandler ch p hp with hp | rfl
    · exact Nat.lt_succ_of_lt (h.handler ch p hp)
    · exact Nat.lt_succ_self _
  have hgone (p : PooledId) (hp : p ∈ f'.taken ∨ p ∈ f'.closed) :
      p < f.connector.nextPooled ∧ ∀ k, p ∉ f.idle.bucket k := by
    rw [hlists.1, hlists.2] at hp
    exact h.left p hp
  rcases hfiled with ⟨hidle, hvector⟩ | ⟨hroom, hidle, hvector⟩
  · refine ⟨hmax.trans h.max_eq, hidle ▸ h.tidy, fun k => ?_, fun k => ?_, fun k => ?_,
      fun k p hp => ?_, hmade, fun p hp => ?_⟩
    · rw [hidle, hvector]
      exact h.vector_eq k
    · rw [hidle]
      exact h.length_le k
    · rw [hidle]
      exact h.nodup k
    · rw [hidle] at hp
      exact hkept k p hp
    · obtain ⟨hlt, hnone⟩ := hgone p hp
      refine ⟨hnext ▸ Nat.lt_succ_of_lt hlt, fun k => ?_⟩
      rw [hidle]
      exact hnone k
  · have hbucket (k : String) : f'.idle.bucket k =
        if k = key then f.idle.bucket key ++ [f.connector.nextPooled] else f.idle.bucket k := by
      rw [hidle, Buckets.bucket_push]
    refine ⟨hmax.trans h.max_eq, hidle ▸ h.tidy.push _ _, fun k => ?_, fun k => ?_, fun k => ?_,
      fun k p hp => ?_, hmade, fun p hp => ?_⟩
    · rw [hbucket, hvector, vector_append, h.vector_eq, h.vector_eq]
    · rw [hbucket]
      split
      · rw [List.length_append, List.length_singleton]
        omega
      · exact h.length_le k
    · rw [hbucket]
      split
      · refine (h.nodup key).append (List.nodup_singleton _) ?_
        simpa using hfresh key
      · exact h.nodup k
    · rw [hbucket] at hp
      split at hp
      · rename_i hk
        rw [hk]
        rcases List.mem_append.mp hp with hp | hp
        · exact hkept key p hp
        · rw [List.mem_singleton.mp hp]
          exact ⟨hnext ▸ Nat.lt_succ_self _, hnew⟩
      · exact hkept k p hp
    · obtain ⟨hlt, hnone⟩ := hgone p hp
      refine ⟨hnext ▸ Nat.lt_succ_of_lt hlt, fun k => ?_⟩
      rw [hbucket]
      split
      · intro hmem
        rcases List.mem_append.mp hmem with hmem | hmem
        · exact hnone key hmem
        · rw [List.mem_singleton.mp hmem] at hlt
          exact Nat.lt_irrefl _ hlt
      · exact hnone k

/-- A channel that is parked has the new pooled channel for its handler, if any. -/
theorem handler_park (s : HttpConnector) (ch : ChannelId) (key : String) (stage : PooledStage)
    {ch' : ChannelId} {p : PooledId}
    (hp : ((s.park ch key stage).channel ch').handler = some (.pooled p)) :
    (s.channel ch').handler = some (.pooled p) ∨ p = s.nextPooled := by
  simp only [HttpConnector.park, Function.update_apply] at hp
  split at hp
  · rename_i heq
    rw [heq]
    split at hp
    · right
      cases hp
      rfl
    · exact .inl hp
  · exact .inl hp

/-- `_FinishAndReturnChannelToPool`. -/
theorem file (h : Filed n f) (c : ConnectionId) (ch : ChannelId) :
    Filed n { f.use (.file c) with connector := f.connector.returnToPool c ch } := by
  have hnew (stage : PooledStage) :
      ((f.connector.park ch (f.connector.connection c).poolKey stage).pooled
        f.connector.nextPooled).key = (f.connector.connection c).poolKey := by
    simp [HttpConnector.park]
  have hold (stage : PooledStage) (p : PooledId) (hp : p ≠ f.connector.nextPooled) :
      ((f.connector.park ch (f.connector.connection c).poolKey stage).pooled p).key =
        (f.connector.pooled p).key := by
    simp [HttpConnector.park, hp]
  by_cases hroom : f.HasRoom (f.connector.connection c).poolKey
  · have hlist := (h.hasRoom_iff _).mp hroom
    rw [Filing.use, if_pos hroom, returnToPool, if_pos hlist]
    refine h.grow rfl rfl (hnew .pooled) (hold .pooled)
      (fun _ _ hp => handler_park f.connector ch (f.connector.connection c).poolKey .pooled hp)
      ⟨rfl, rfl⟩ (.inr ⟨?_, rfl, rfl⟩)
    rw [← h.max_eq]
    exact hroom.2.2.2
  · have hlist : ¬ f.connector.HasRoom (f.connector.connection c).poolKey :=
      fun hlist => hroom ((h.hasRoom_iff _).mpr hlist)
    rw [Filing.use, if_neg hroom, returnToPool, if_neg hlist]
    have hclose := aside_closeChannel
      (f.connector.park ch (f.connector.connection c).poolKey .loose) ch
    exact h.grow rfl rfl (hnew .loose) (hold .loose)
      (fun _ _ hp => handler_park f.connector ch (f.connector.connection c).poolKey .loose
        (hclose.handler _ _ hp)) ⟨rfl, rfl⟩ (.inl ⟨rfl, rfl⟩)

/-- Whatever a thread does, the map stays in order. -/
theorem step (h : Filed n f) (e : Thread × Event) : Filed n (f.step e) := by
  obtain ⟨t, e⟩ := e
  unfold Filing.step
  cases huse : f.connector.idleUse (t, e) with
  | none => exact h.aside (aside_step huse)
  | take key =>
    obtain ⟨r, hmax, rfl, hstep⟩ := step_of_take huse
    rw [hstep]
    exact h.take r hmax
  | remove p =>
    obtain ⟨ch, hp, hstep⟩ := step_of_remove huse
    rw [hstep]
    exact h.remove hp (aside_setChannel _ ch fun _ hq => hq) rfl
  | file c =>
    obtain ⟨ch, hstep⟩ := step_of_file huse
    rw [hstep]
    exact h.file c ch

/-- A new connector has no idle channel. -/
theorem create (n : ℕ) (handler logSink : Bool) : Filed n (.create n handler logSink) where
  max_eq := rfl
  tidy _ hnil := by cases hnil
  vector_eq _ := rfl
  length_le _ := Nat.zero_le n
  nodup _ := List.nodup_nil
  own _ _ hp := by cases hp
  handler _ _ hp := by cases hp
  left _ hp := by rcases hp with hp | hp <;> cases hp

end Filed

namespace Filing

/-- `idle` is as the code relies on. -/
structure InOrder (n : ℕ) (f : Filing) : Prop where
  /-- No key has an empty vector. -/
  ne_nil : ∀ key, f.idle key ≠ some []
  /-- Every vector has at most `max_idle_per_key` entries. -/
  length_le : ∀ key, (f.idle.bucket key).length ≤ n
  /-- No pooled channel occurs twice in a vector. -/
  nodup : ∀ key, (f.idle.bucket key).Nodup
  /-- No pooled channel occurs in two vectors. -/
  disjoint : ∀ key key' p, p ∈ f.idle.bucket key → p ∈ f.idle.bucket key' → key = key'
  /-- Every entry is filed under its own key. -/
  own : ∀ key, ∀ p ∈ f.idle.bucket key, (f.connector.pooled p).key = key
  /-- What was taken is not there. -/
  taken : ∀ p ∈ f.taken, ∀ key, p ∉ f.idle.bucket key
  /-- What has reported `OnChannelClosed` is not there. -/
  closed : ∀ p ∈ f.closed, ∀ key, p ∉ f.idle.bucket key
  /-- `idle.empty()` means that no channel is there. -/
  empty_iff : (∀ key, f.idle key = none) ↔ ∀ p key, p ∉ f.idle.bucket key
  /-- The connector finds its pool empty exactly then. -/
  drained_iff : (∀ key, f.idle key = none) ↔ f.connector.idle = []

end Filing

/-- The connector beside the map runs as it does alone. -/
theorem Filing.run_connector (f : Filing) (events : List (Thread × Event)) :
    (Runs.run Filing.step f events).connector =
      Runs.run HttpConnector.step f.connector events := by
  induction events generalizing f with
  | nil => rfl
  | cons e events ih => exact ih (f.step e)

/-- A list is empty exactly when no key has an entry in it. -/
theorem eq_nil_iff_vector (idle : List (String × PooledId)) :
    idle = [] ↔ ∀ key, vector idle key = [] := by
  constructor
  · rintro rfl key
    rfl
  · intro h
    cases idle with
    | nil => rfl
    | cons e idle =>
      have hfirst : e.2 ∈ vector (e :: idle) e.1 :=
        List.mem_map.mpr ⟨e, List.mem_filter.mpr ⟨List.mem_cons_self, by simp⟩, rfl⟩
      rw [h] at hfirst
      cases hfirst

/-- A map that agrees with the connector is in order. -/
theorem Filed.inOrder {n : ℕ} {f : Filing} (h : Filed n f) : f.InOrder n where
  ne_nil := h.tidy
  length_le := h.length_le
  nodup := h.nodup
  disjoint key key' p hp hp' := (h.own key p hp).2.symm.trans (h.own key' p hp').2
  own key p hp := (h.own key p hp).2
  taken p hp := (h.left p (.inl hp)).2
  closed p hp := (h.left p (.inr hp)).2
  empty_iff := by
    refine (forall_congr' h.tidy.eq_none_iff).trans ?_
    simp only [List.eq_nil_iff_forall_not_mem]
    exact forall_comm
  drained_iff := by
    refine (forall_congr' h.tidy.eq_none_iff).trans ?_
    simp only [h.vector_eq]
    exact (eq_nil_iff_vector _).symm

/-- Whatever the threads of a connector do, in any order and for any `max_idle_per_key`, the
map of its idle channels is in order. -/
theorem idle_inOrder (maxIdlePerKey : ℕ) (handler logSink : Bool)
    (events : List (Thread × Event)) :
    (Runs.run Filing.step (.create maxIdlePerKey handler logSink) events).InOrder maxIdlePerKey :=
  Filed.inOrder (Runs.invariant (I := Filed maxIdlePerKey) (fun _ e h => h.step e)
    (Filed.create maxIdlePerKey handler logSink) events)

end Http
