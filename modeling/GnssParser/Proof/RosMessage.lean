import GnssParser.Model.RosMessage
import GnssParser.Proof.GnssTime

/-!
# Round trips of ROS messages
-/

namespace GnssParser

theorem ofTimeMsg_toTimeMsg {t : GTime} (span : t.InGpsSpan) : ofTimeMsg (toTimeMsg t) = t :=
  gpst2time_time2gpst span

theorem vector_two {α : Type} (v : Vector α 2) : #v[getElem v 0 Nat.two_pos, getElem v 1 Nat.one_lt_two] = v := by
  ext i below
  obtain rfl | rfl : i = 0 ∨ i = 1 := by omega
  · rfl
  · rfl

theorem vector_three {α : Type} (v : Vector α 3) : #v[getElem v 0 (by decide), getElem v 1 (by decide), getElem v 2 (by decide)] = v := by
  ext i below
  obtain rfl | rfl | rfl : i = 0 ∨ i = 1 ∨ i = 2 := by omega
  · rfl
  · rfl
  · rfl

theorem msg2ephem_ephem2msg {e : Ephem} (ttr : e.ttr.InGpsSpan) (toe : e.toe.InGpsSpan)
    (toc : e.toc.InGpsSpan) : msg2ephem (ephem2msg e) = e := by
  rw [msg2ephem, ephem2msg]
  dsimp only
  rw [ofTimeMsg_toTimeMsg ttr, ofTimeMsg_toTimeMsg toe, ofTimeMsg_toTimeMsg toc, vector_two]

theorem msg2gloEphem_gloEphem2msg {e : GloEphem} (ttr : e.ttr.InGpsSpan)
    (toe : e.toe.InGpsSpan) : msg2gloEphem (gloEphem2msg e) = e := by
  rw [msg2gloEphem, gloEphem2msg]
  dsimp only
  rw [ofTimeMsg_toTimeMsg ttr, ofTimeMsg_toTimeMsg toe, vector_three, vector_three, vector_three]

theorem msg2obs_obs2msg {obs : Obs} (time : obs.time.InGpsSpan) : msg2obs (obs2msg obs) = obs := by
  rw [msg2obs, obs2msg]
  dsimp only
  rw [ofTimeMsg_toTimeMsg time]

theorem msg2meas_meas2msg {meas : List Obs} (times : ∀ obs ∈ meas, obs.time.InGpsSpan) :
    msg2meas (meas2msg meas) = meas := by
  rw [msg2meas, meas2msg, List.map_map]
  calc meas.map (msg2obs ∘ obs2msg)
      = meas.map id := List.map_congr_left fun obs mem => msg2obs_obs2msg (times obs mem)
    _ = meas := List.map_id meas

theorem msg2tpInfo_tpInfo2msg {info : TimePulseInfo} (time : info.time.InGpsSpan) :
    msg2tpInfo (tpInfo2msg info) = info := by
  rw [msg2tpInfo, tpInfo2msg]
  dsimp only
  rw [ofTimeMsg_toTimeMsg time]

theorem msg2pvt_pvt2msg {pvt : PVTSolution} (time : pvt.time.InGpsSpan) :
    msg2pvt (pvt2msg pvt) = pvt := by
  rw [msg2pvt, pvt2msg]
  dsimp only
  rw [ofTimeMsg_toTimeMsg time]

theorem ros_round_trip :
    (∀ e : Ephem, e.ttr.InGpsSpan → e.toe.InGpsSpan → e.toc.InGpsSpan →
      msg2ephem (ephem2msg e) = e) ∧
    (∀ e : GloEphem, e.ttr.InGpsSpan → e.toe.InGpsSpan → msg2gloEphem (gloEphem2msg e) = e) ∧
    (∀ info : TimePulseInfo, info.time.InGpsSpan → msg2tpInfo (tpInfo2msg info) = info) ∧
    (∀ pvt : PVTSolution, pvt.time.InGpsSpan → msg2pvt (pvt2msg pvt) = pvt) ∧
    ∀ meas : List Obs, (∀ obs ∈ meas, obs.time.InGpsSpan) → msg2meas (meas2msg meas) = meas :=
  ⟨fun _ ttr toe toc => msg2ephem_ephem2msg ttr toe toc,
    fun _ ttr toe => msg2gloEphem_gloEphem2msg ttr toe,
    fun _ time => msg2tpInfo_tpInfo2msg time, fun _ time => msg2pvt_pvt2msg time,
    fun _ times => msg2meas_meas2msg times⟩

theorem ros_round_trip_pulse :
    msg2tpInfo (tpInfo2msg ⟨⟨4102444799, 1 / 2⟩, true, sysGps⟩) = ⟨⟨4102444799, 1 / 2⟩, true, sysGps⟩ :=
  ros_round_trip.2.2.1 _ ⟨⟨by norm_num, by norm_num⟩, by decide +kernel, by decide⟩

end GnssParser
