import GnssParser.Model.Measurement
import GnssParser.Model.Navigation

/-!
# ROS messages

The messages of `gnss_comm/msg` and the conversions of `gnss_ros.cpp`. A message field has the type
of the struct field copied into it.
-/

namespace GnssParser

structure GnssTimeMsg where
  week : UInt32
  tow : ℚ

def toTimeMsg (t : GTime) : GnssTimeMsg :=
  let (tow, week) := time2gpst t
  { week, tow }

def ofTimeMsg (msg : GnssTimeMsg) : GTime := gpst2time msg.week msg.tow

/-! ## Ephemerides -/

structure GnssEphemMsg where
  sat : Nat
  ttr : GnssTimeMsg
  toe : GnssTimeMsg
  toc : GnssTimeMsg
  toeTow : ℚ
  week : UInt32
  iode : UInt32
  iodc : UInt32
  health : UInt32
  code : UInt32
  ura : ℚ
  a : ℚ
  e : ℚ
  i0 : ℚ
  omg : ℚ
  omg0 : ℚ
  m0 : ℚ
  deltaN : ℚ
  omgDot : ℚ
  iDot : ℚ
  cuc : ℚ
  cus : ℚ
  crc : ℚ
  crs : ℚ
  cic : ℚ
  cis : ℚ
  af0 : ℚ
  af1 : ℚ
  af2 : ℚ
  tgd0 : ℚ
  tgd1 : ℚ
  aDot : ℚ
  nDot : ℚ

def ephem2msg (e : Ephem) : GnssEphemMsg where
  sat := e.sat
  ttr := toTimeMsg e.ttr
  toe := toTimeMsg e.toe
  toc := toTimeMsg e.toc
  toeTow := e.toeTow
  week := e.week
  iode := e.iode
  iodc := e.iodc
  health := e.health
  code := e.code
  ura := e.ura
  a := e.a
  e := e.e
  i0 := e.i0
  omg := e.omg
  omg0 := e.omg0
  m0 := e.m0
  deltaN := e.deltaN
  omgDot := e.omgDot
  iDot := e.iDot
  cuc := e.cuc
  cus := e.cus
  crc := e.crc
  crs := e.crs
  cic := e.cic
  cis := e.cis
  af0 := e.af0
  af1 := e.af1
  af2 := e.af2
  tgd0 := e.tgd[0]
  tgd1 := e.tgd[1]
  aDot := e.aDot
  nDot := e.nDot

def msg2ephem (msg : GnssEphemMsg) : Ephem where
  sat := msg.sat
  ttr := ofTimeMsg msg.ttr
  toe := ofTimeMsg msg.toe
  toc := ofTimeMsg msg.toc
  toeTow := msg.toeTow
  week := msg.week
  iode := msg.iode
  iodc := msg.iodc
  health := msg.health
  code := msg.code
  ura := msg.ura
  a := msg.a
  e := msg.e
  i0 := msg.i0
  omg := msg.omg
  omg0 := msg.omg0
  m0 := msg.m0
  deltaN := msg.deltaN
  omgDot := msg.omgDot
  iDot := msg.iDot
  cuc := msg.cuc
  cus := msg.cus
  crc := msg.crc
  crs := msg.crs
  cic := msg.cic
  cis := msg.cis
  af0 := msg.af0
  af1 := msg.af1
  af2 := msg.af2
  tgd := #v[msg.tgd0, msg.tgd1]
  aDot := msg.aDot
  nDot := msg.nDot

structure GnssGloEphemMsg where
  sat : Nat
  ttr : GnssTimeMsg
  toe : GnssTimeMsg
  freqo : Int
  iode : UInt32
  health : UInt32
  age : UInt32
  ura : ℚ
  posX : ℚ
  posY : ℚ
  posZ : ℚ
  velX : ℚ
  velY : ℚ
  velZ : ℚ
  accX : ℚ
  accY : ℚ
  accZ : ℚ
  tauN : ℚ
  gamma : ℚ
  deltaTauN : ℚ

def gloEphem2msg (e : GloEphem) : GnssGloEphemMsg where
  sat := e.sat
  ttr := toTimeMsg e.ttr
  toe := toTimeMsg e.toe
  freqo := e.freqo
  iode := e.iode
  health := e.health
  age := e.age
  ura := e.ura
  posX := e.pos[0]
  posY := e.pos[1]
  posZ := e.pos[2]
  velX := e.vel[0]
  velY := e.vel[1]
  velZ := e.vel[2]
  accX := e.acc[0]
  accY := e.acc[1]
  accZ := e.acc[2]
  tauN := e.tauN
  gamma := e.gamma
  deltaTauN := e.deltaTauN

def msg2gloEphem (msg : GnssGloEphemMsg) : GloEphem where
  sat := msg.sat
  ttr := ofTimeMsg msg.ttr
  toe := ofTimeMsg msg.toe
  freqo := msg.freqo
  iode := msg.iode
  health := msg.health
  age := msg.age
  ura := msg.ura
  pos := #v[msg.posX, msg.posY, msg.posZ]
  vel := #v[msg.velX, msg.velY, msg.velZ]
  acc := #v[msg.accX, msg.accY, msg.accZ]
  tauN := msg.tauN
  gamma := msg.gamma
  deltaTauN := msg.deltaTauN

/-! ## Measurements -/

structure GnssObsMsg where
  time : GnssTimeMsg
  sat : Nat
  freqs : List ℚ
  cn0 : List ℚ
  lli : List UInt8
  code : List UInt8
  psr : List Ieee
  psrStd : List ℚ
  cp : List Ieee
  cpStd : List ℚ
  dopp : List Ieee
  doppStd : List ℚ
  status : List UInt8

def obs2msg (obs : Obs) : GnssObsMsg where
  time := toTimeMsg obs.time
  sat := obs.sat
  freqs := obs.freqs
  cn0 := obs.cn0
  lli := obs.lli
  code := obs.code
  psr := obs.psr
  psrStd := obs.psrStd
  cp := obs.cp
  cpStd := obs.cpStd
  dopp := obs.dopp
  doppStd := obs.doppStd
  status := obs.status

def msg2obs (msg : GnssObsMsg) : Obs where
  time := ofTimeMsg msg.time
  sat := msg.sat
  freqs := msg.freqs
  cn0 := msg.cn0
  lli := msg.lli
  code := msg.code
  psr := msg.psr
  psrStd := msg.psrStd
  cp := msg.cp
  cpStd := msg.cpStd
  dopp := msg.dopp
  doppStd := msg.doppStd
  status := msg.status

/-- The loop of `meas2msg` pushes one message for each observation. -/
def meas2msg (meas : List Obs) : List GnssObsMsg := meas.map obs2msg

def msg2meas (meas : List GnssObsMsg) : List Obs := meas.map msg2obs

/-! ## Time pulses and solutions -/

structure GnssTimePulseInfoMsg where
  time : GnssTimeMsg
  utcBased : Bool
  timeSys : Nat

def tpInfo2msg (info : TimePulseInfo) : GnssTimePulseInfoMsg where
  time := toTimeMsg info.time
  utcBased := info.utcBased
  timeSys := info.timeSys

def msg2tpInfo (msg : GnssTimePulseInfoMsg) : TimePulseInfo where
  time := ofTimeMsg msg.time
  utcBased := msg.utcBased
  timeSys := msg.timeSys

structure GnssPVTSolnMsg where
  time : GnssTimeMsg
  fixType : UInt8
  validFix : Bool
  diffSoln : Bool
  carrSoln : UInt8
  numSv : UInt8
  latitude : ℚ
  longitude : ℚ
  altitude : ℚ
  heightMsl : ℚ
  hAcc : ℚ
  vAcc : ℚ
  pDop : ℚ
  velN : ℚ
  velE : ℚ
  velD : ℚ
  velAcc : ℚ

def pvt2msg (pvt : PVTSolution) : GnssPVTSolnMsg where
  time := toTimeMsg pvt.time
  fixType := pvt.fixType
  validFix := pvt.validFix
  diffSoln := pvt.diffSoln
  carrSoln := pvt.carrSoln
  numSv := pvt.numSv
  latitude := pvt.lat
  longitude := pvt.lon
  altitude := pvt.hgt
  heightMsl := pvt.hgtMsl
  hAcc := pvt.hAcc
  vAcc := pvt.vAcc
  pDop := pvt.pDop
  velN := pvt.velN
  velE := pvt.velE
  velD := pvt.velD
  velAcc := pvt.velAcc

def msg2pvt (msg : GnssPVTSolnMsg) : PVTSolution where
  time := ofTimeMsg msg.time
  fixType := msg.fixType
  validFix := msg.validFix
  diffSoln := msg.diffSoln
  carrSoln := msg.carrSoln
  numSv := msg.numSv
  lat := msg.latitude
  lon := msg.longitude
  hgt := msg.altitude
  hgtMsl := msg.heightMsl
  hAcc := msg.hAcc
  vAcc := msg.vAcc
  pDop := msg.pDop
  velN := msg.velN
  velE := msg.velE
  velD := msg.velD
  velAcc := msg.velAcc

end GnssParser
