import GstWebrtcCamera.V4l2.Capture

/-!
# Choosing a capture device

`get_capture_device` is asked when the configured device does not have the configured mode. It tries
three things in order: a video node that has the mode, a video node that has any, and, through udev,
an entity of a media device that has a name the program knows. `main` relies on its answer to stop
if there is no camera.

The third attempt is nested twice, and the outer function returns zero whatever the inner one found.
-/

namespace GstWebrtcCamera

open CString

/-! ## Media devices -/

/-- An entity of a media device. -/
structure MediaEntity where
  name : CString
  /-- The node that udev has for its device number, if any. -/
  devnode : Option CString
  deriving DecidableEq

/-- A media device that can be opened. -/
structure MediaDevice where
  /-- The `errno`s of the two `MEDIA_IOC_DEVICE_INFO` calls, if they fail. -/
  infoErrno : Option ℕ+ := none
  infoErrnoAgain : Option ℕ+ := none
  /-- The `errno` of the second `MEDIA_IOC_G_TOPOLOGY` call. The first is not checked. -/
  topologyErrno : Option ℕ+ := none
  numInterfaces : ℕ
  numEntities : ℕ
  numPads : ℕ
  numLinks : ℕ
  /-- What `MEDIA_IOC_ENUM_ENTITIES` enumerates. -/
  entities : List MediaEntity

/-- An entry of the list of udev. -/
inductive UdevEntry
  /-- It has no name, or udev has no device for the name. -/
  | skipped
  /-- A device and its node. -/
  | device (devnode : Option CString)
  deriving DecidableEq

/-- What there is on the machine. -/
structure Host where
  /-- The names in `/dev`, if it can be read. -/
  devDir : Option (List CString)
  video : VideoDevices
  /-- The media devices that udev lists, if it can be used. -/
  udev : Option (List UdevEntry)
  media : CString → Option MediaDevice
  /-- The `errno` of a media device that does not open. -/
  openErrno : ℕ+ := 2

/-- The names of `video_capture`. -/
def videoCapture : List CString := [ofString "sun6i-csi-capture", ofString "ipu1_csi1 capture"]

/-- `fcc2s`. -/
def fcc2s (val : UInt32) : CString :=
  let byte (shift : UInt32) : Char := Char.ofNat ((val >>> shift) &&& 0x7f).toNat
  let s := (cut [byte 0, byte 8, byte 16, byte 24]).chars
  cut (if val >>> 31 = 1 then s ++ lit "-BE" else s)

/-- `get_capture_fmt_video`. Descriptor zero counts as a failure here. -/
def getCaptureFmtVideo (video : VideoDevices) (data : V4l2srcData) : V4l2srcData :=
  match data.device.bind video with
  | none => data
  | some dev =>
    if 0 < dev.fd ∧ dev.busInfo.isSome ∧ dev.videoCapture then
      match dev.setFormat with
      | none => data
      | some (width, height, pixelformat) => {
        data with
        width := width.toInt32
        height := height.toInt32
        format := some (fcc2s pixelformat) }
    else data

/-- `find_capture_path_by_udev`: the first entity of that name which has a node. -/
def findCapturePathByUdev (capture : CString) : List MediaEntity → Option CString
  | [] => none
  | e :: l =>
    if e.name = capture then
      match e.devnode with
      | some path => some path
      | none => findCapturePathByUdev capture l
    else findCapturePathByUdev capture l

/-- The loop over `video_capture`. -/
def probeCaptures (video : VideoDevices) (entities : List MediaEntity) (data : V4l2srcData) :
    List CString → ℤ × V4l2srcData
  | [] => (-1, data)
  | capture :: l =>
    match findCapturePathByUdev capture entities with
    | some vpath =>
      (0, getCaptureFmtVideo video
        { data with device := some vpath, specDrv := some capture })
    | none => probeCaptures video entities data l

/-- `media_device_probe`. -/
def mediaDeviceProbe (host : Host) (data : V4l2srcData) (path : Option CString) :
    ℤ × V4l2srcData :=
  match path.bind host.media with
  | none => (-host.openErrno, data)
  | some m =>
    match m.infoErrno, m.infoErrnoAgain, m.topologyErrno with
    | some e, _, _ | none, some e, _ | none, none, some e => (-e, data)
    | none, none, none =>
      if m.numInterfaces = 0 ∨ m.numEntities = 0 ∨ m.numPads = 0 ∨ m.numLinks = 0 then
        -- `-ENODEV`
        (-19, data)
      else probeCaptures host.video m.entities data videoCapture

/-- The loop over the list of udev, left at the first device that has what is looked for. -/
def probeEntries (host : Host) (data : V4l2srcData) : List UdevEntry → V4l2srcData
  | [] => data
  | .skipped :: l => probeEntries host data l
  | .device mpath :: l =>
    let (ret, data) := mediaDeviceProbe host data mpath
    if ret = 0 then data else probeEntries host data l

/-- `enumerate_udev_list`. What the loop found is not in the value it returns. -/
def enumerateUdevList (host : Host) (data : V4l2srcData) : ℤ × V4l2srcData :=
  match host.udev with
  | none => (-1, data)
  | some entries => (0, probeEntries host data entries)

/-! ## The three attempts -/

/-- `videolist`. -/
def videolist (host : Host) : List CString :=
  ((host.devDir.getD []).filter fun name ↦
    decide (5 < name.chars.length) && (lit "video").isPrefixOf name.chars).map
    fun name ↦ cut (lit "/dev/" ++ name.chars)

/-- The first loop, for a node with the configured mode. -/
def searchMode (fps : Fract → Int32) (host : Host) (data : V4l2srcData) :
    List CString → Option V4l2srcData
  | [] => none
  | path :: l =>
    let item := {
      device := some path
      width := data.width
      height := data.height
      format := data.format
      framerate := data.framerate }
    if findVideoDeviceFmt fps host.video item then some { data with device := some path }
    else searchMode fps host data l

/-- The second loop, for a node with any mode. Only the device of its item is initialized. -/
def searchDefault (fps : Fract → Int32) (host : Host) (data : V4l2srcData) :
    List CString → Option V4l2srcData
  | [] => none
  | path :: l =>
    let (found, item) := getDefaultCaptureDevice fps host.video { device := some path }
    if found then
      some {
        data with
        device := some path
        width := item.width
        height := item.height
        framerate := item.framerate }
    else searchDefault fps host data l

/-- `get_capture_device`. The second component is the argument afterwards. -/
def getCaptureDevice (fps : Fract → Int32) (host : Host) (data : V4l2srcData) :
    Bool × V4l2srcData :=
  match searchMode fps host data (videolist host) with
  | some data => (true, data)
  | none =>
    match searchDefault fps host data (videolist host) with
    | some data => (true, data)
    | none =>
      let (ret, data) := enumerateUdevList host data
      (decide (ret = 0), data)

/-! ## What the third attempt finds -/

/-- The device answers, and its topology is not empty. -/
structure MediaDevice.Answers (m : MediaDevice) : Prop where
  info : m.infoErrno = none
  infoAgain : m.infoErrnoAgain = none
  topology : m.topologyErrno = none
  counts : ¬ (m.numInterfaces = 0 ∨ m.numEntities = 0 ∨ m.numPads = 0 ∨ m.numLinks = 0)

/-- The device and the driver are those of an entity with a known name. -/
def MediaDevice.Names (m : MediaDevice) (data : V4l2srcData) : Prop :=
  m.Answers ∧ ∃ e ∈ m.entities, e.name ∈ videoCapture ∧ e.devnode.isSome ∧
    data.device = e.devnode ∧ data.specDrv = some e.name

/-- The device and the driver are those of an entity of a media device that udev lists. -/
def Host.FromEntity (host : Host) (data : V4l2srcData) : Prop :=
  ∃ entries, host.udev = some entries ∧ ∃ mpath, .device mpath ∈ entries ∧
    ∃ m, mpath.bind host.media = some m ∧ m.Names data

section

variable {host : Host} {data : V4l2srcData} {video : VideoDevices}

theorem getCaptureFmtVideo_keeps :
    (getCaptureFmtVideo video data).device = data.device ∧
      (getCaptureFmtVideo video data).specDrv = data.specDrv := by
  unfold getCaptureFmtVideo
  split
  · exact ⟨rfl, rfl⟩
  · split_ifs
    · split <;> exact ⟨rfl, rfl⟩
    · exact ⟨rfl, rfl⟩

@[simp] theorem getCaptureFmtVideo_device :
    (getCaptureFmtVideo video data).device = data.device := getCaptureFmtVideo_keeps.1

@[simp] theorem getCaptureFmtVideo_specDrv :
    (getCaptureFmtVideo video data).specDrv = data.specDrv := getCaptureFmtVideo_keeps.2

theorem findCapturePathByUdev_eq_some {capture path : CString} {l : List MediaEntity}
    (h : findCapturePathByUdev capture l = some path) :
    ∃ e ∈ l, e.name = capture ∧ e.devnode = some path := by
  induction l with
  | nil => exact absurd h nofun
  | cons e l ih =>
    have htail : findCapturePathByUdev capture l = some path →
        ∃ e' ∈ e :: l, e'.name = capture ∧ e'.devnode = some path := by
      intro h
      obtain ⟨e', he', hname, hnode⟩ := ih h
      exact ⟨e', List.mem_cons_of_mem _ he', hname, hnode⟩
    rw [findCapturePathByUdev] at h
    split_ifs at h with hname
    · split at h
      · next hnode => exact ⟨e, List.mem_cons_self, hname, hnode.trans h⟩
      · exact htail h
    · exact htail h

theorem findCapturePathByUdev_eq_none {capture : CString} {l : List MediaEntity}
    (h : findCapturePathByUdev capture l = none) :
    ∀ e ∈ l, e.name = capture → e.devnode = none := by
  induction l with
  | nil => exact nofun
  | cons e l ih =>
    rw [findCapturePathByUdev] at h
    rw [List.forall_mem_cons]
    split_ifs at h with hname
    · split at h
      · exact absurd h nofun
      · next hnode => exact ⟨fun _ ↦ hnode, ih h⟩
    · exact ⟨fun h ↦ absurd h hname, ih h⟩

theorem probeCaptures_cases (video : VideoDevices) (data : V4l2srcData)
    (entities : List MediaEntity) (l : List CString) :
    (probeCaptures video entities data l = (-1, data) ∧
        ∀ e ∈ entities, e.name ∈ l → e.devnode = none) ∨
    (probeCaptures video entities data l).1 = 0 ∧
      ∃ e ∈ entities, e.name ∈ l ∧ e.devnode.isSome ∧
        (probeCaptures video entities data l).2.device = e.devnode ∧
        (probeCaptures video entities data l).2.specDrv = some e.name := by
  induction l with
  | nil => exact .inl ⟨rfl, nofun⟩
  | cons capture l ih =>
    rw [probeCaptures]
    split
    · next vpath hpath =>
      obtain ⟨e, he, rfl, hnode⟩ := findCapturePathByUdev_eq_some hpath
      exact .inr ⟨rfl, e, he, List.mem_cons_self, by simp [hnode], by simp [hnode], by simp⟩
    · next hpath =>
      have hhead := findCapturePathByUdev_eq_none hpath
      rcases ih with ⟨heq, hnone⟩ | ⟨hret, e, he, hname, hset⟩
      · refine .inl ⟨heq, fun e he hname ↦ ?_⟩
        exact (List.mem_cons.mp hname).elim (hhead e he) (hnone e he)
      · exact .inr ⟨hret, e, he, List.mem_cons_of_mem _ hname, hset⟩

variable (host data)

/-- **A probe** changes nothing, or names an entity. It succeeds if there is one to name. -/
theorem mediaDeviceProbe_cases (path : Option CString) :
    ((mediaDeviceProbe host data path).1 ≠ 0 ∧ (mediaDeviceProbe host data path).2 = data ∧
        ∀ m, path.bind host.media = some m → ∀ d, ¬ m.Names d) ∨
    (mediaDeviceProbe host data path).1 = 0 ∧
      ∃ m, path.bind host.media = some m ∧ m.Names (mediaDeviceProbe host data path).2 := by
  rw [mediaDeviceProbe]
  cases hm : path.bind host.media with
  | none => exact .inl ⟨by simp, rfl, nofun⟩
  | some m =>
    simp only [Option.some.injEq, forall_eq', exists_eq_left']
    cases hinfo : m.infoErrno with
    | some e => exact .inl ⟨by simp, rfl, fun d h ↦ by simp [h.1.info] at hinfo⟩
    | none =>
      cases hagain : m.infoErrnoAgain with
      | some e => exact .inl ⟨by simp, rfl, fun d h ↦ by simp [h.1.infoAgain] at hagain⟩
      | none =>
        cases htopology : m.topologyErrno with
        | some e => exact .inl ⟨by simp, rfl, fun d h ↦ by simp [h.1.topology] at htopology⟩
        | none =>
          simp only
          split_ifs with hcounts
          · exact .inl ⟨by simp, rfl, fun d h ↦ h.1.counts hcounts⟩
          · rcases probeCaptures_cases host.video data m.entities videoCapture with
              ⟨heq, hnone⟩ | ⟨hret, hset⟩
            · rw [heq]
              refine .inl ⟨by simp, rfl, ?_⟩
              rintro d ⟨-, e, he, hname, hnode, -⟩
              simp [hnone e he hname] at hnode
            · exact .inr ⟨hret, ⟨hinfo, hagain, htopology, hcounts⟩, hset⟩

theorem probeEntries_cases (l : List UdevEntry) :
    (probeEntries host data l = data ∧ ∀ mpath, .device mpath ∈ l →
        ∀ m, mpath.bind host.media = some m → ∀ d, ¬ m.Names d) ∨
    ∃ mpath, .device mpath ∈ l ∧ ∃ m, mpath.bind host.media = some m ∧
      m.Names (probeEntries host data l) := by
  induction l with
  | nil => exact .inl ⟨rfl, nofun⟩
  | cons entry l ih =>
    cases entry with
    | skipped => simpa [probeEntries] using ih
    | device path =>
      rw [probeEntries]
      rcases mediaDeviceProbe_cases host data path with
        ⟨hret, heq, hnone⟩ | ⟨hret, m, hm, hnames⟩
      · simp only [if_neg hret, heq]
        rcases ih with ⟨heq', hnone'⟩ | ⟨mpath, hmem, hset⟩
        · refine .inl ⟨heq', fun mpath hmem ↦ ?_⟩
          rcases List.mem_cons.mp hmem with hhead | hmem
          · obtain rfl := UdevEntry.device.inj hhead
            exact hnone
          · exact hnone' mpath hmem
        · exact .inr ⟨mpath, List.mem_cons_of_mem _ hmem, hset⟩
      · simp only [if_pos hret]
        exact .inr ⟨path, List.mem_cons_self, m, hm, hnames⟩

end

/-! ## What the first two find -/

/-- The node is a camera with a discrete size that has an interval. -/
def VideoDevices.HasMode (video : VideoDevices) (path : CString) : Prop :=
  ∃ dev, (video.Reads (some path) dev ∧ ¬ dev.OnPlatform) ∧ ∃ pf w h iv, dev.Offers pf w h iv

section

variable {fps : Fract → Int32} {host : Host} {data : V4l2srcData}

theorem findVideoDeviceFmt_congr {video : VideoDevices} {data' : V4l2srcData}
    (hdevice : data.device = data'.device) (hwidth : data.width = data'.width)
    (hheight : data.height = data'.height) (hframerate : data.framerate = data'.framerate) :
    findVideoDeviceFmt fps video data = findVideoDeviceFmt fps video data' := by
  rw [Bool.eq_iff_iff, findVideoDeviceFmt_eq_true_iff, findVideoDeviceFmt_eq_true_iff, hdevice,
    hwidth, hheight, hframerate]

variable (fps host data) in
theorem searchMode_cases (l : List CString) :
    (searchMode fps host data l = none ∧
        ∀ path ∈ l, findVideoDeviceFmt fps host.video { data with device := some path } = false) ∨
    ∃ path ∈ l, searchMode fps host data l = some { data with device := some path } ∧
      findVideoDeviceFmt fps host.video { data with device := some path } = true := by
  induction l with
  | nil => exact .inl ⟨rfl, nofun⟩
  | cons path l ih =>
    have hitem : findVideoDeviceFmt fps host.video {
        device := some path
        width := data.width
        height := data.height
        format := data.format
        framerate := data.framerate } =
        findVideoDeviceFmt fps host.video { data with device := some path } :=
      findVideoDeviceFmt_congr rfl rfl rfl rfl
    rw [searchMode, hitem]
    split_ifs with hfind
    · exact .inr ⟨path, List.mem_cons_self, rfl, hfind⟩
    · rcases ih with ⟨heq, hnone⟩ | ⟨path', hmem, hset⟩
      · exact .inl ⟨heq, List.forall_mem_cons.mpr ⟨Bool.eq_false_of_not_eq_true hfind, hnone⟩⟩
      · exact .inr ⟨path', List.mem_cons_of_mem _ hmem, hset⟩

variable (fps host data) in
theorem searchDefault_cases (l : List CString) :
    (searchDefault fps host data l = none ∧ ∀ path ∈ l, ¬ host.video.HasMode path) ∨
    ∃ path ∈ l, host.video.HasMode path ∧ ∃ data', searchDefault fps host data l = some data' ∧
      findVideoDeviceFmt fps host.video data' = true := by
  induction l with
  | nil => exact .inl ⟨rfl, nofun⟩
  | cons path l ih =>
    obtain ⟨r, hr⟩ : ∃ r, r = getDefaultCaptureDevice fps host.video { device := some path } :=
      ⟨_, rfl⟩
    rw [searchDefault, ← hr]
    simp only
    split_ifs with hfound
    · have htrue : (getDefaultCaptureDevice fps host.video { device := some path }).1 = true :=
        hr ▸ hfound
      have hmode : host.video.HasMode path := getDefaultCaptureDevice_eq_true_iff.mp htrue
      refine .inr ⟨path, List.mem_cons_self, hmode, _, rfl, ?_⟩
      -- the mode was found on this node, so it is found there again
      have hdefault := findVideoDeviceFmt_default htrue
      rw [← hr] at hdefault
      have hdevice : r.2.device = some path := by
        rcases getDefaultCaptureDevice_cases fps host.video { device := some path } with
          ⟨hnone, -⟩ | ⟨_, _, _, _, _, -, -, heq⟩
        · rw [← hr, hfound] at hnone
          contradiction
        · rw [hr, heq]
      rw [← hdefault]
      exact findVideoDeviceFmt_congr hdevice.symm rfl rfl rfl
    · have hhead : ¬ host.video.HasMode path := by
        intro hmode
        rw [hr] at hfound
        exact hfound (getDefaultCaptureDevice_eq_true_iff.mpr hmode)
      rcases ih with ⟨heq, hnone⟩ | ⟨path', hmem, hset⟩
      · exact .inl ⟨heq, List.forall_mem_cons.mpr ⟨hhead, hnone⟩⟩
      · exact .inr ⟨path', List.mem_cons_of_mem _ hmem, hset⟩

theorem hasMode_of_findVideoDeviceFmt {path : CString}
    (h : findVideoDeviceFmt fps host.video { data with device := some path } = true) :
    host.video.HasMode path := by
  obtain ⟨dev, hreads, pf, iv, hoffers, -⟩ := findVideoDeviceFmt_eq_true_iff.mp h
  exact ⟨dev, hreads, pf, _, _, iv, hoffers⟩

/-! ## When the answer can be relied on -/

/-- Every way the three attempts can end. -/
inductive Captured (fps : Fract → Int32) (host : Host) (data : V4l2srcData) :
    Bool × V4l2srcData → Prop
  | node {data' : V4l2srcData} (hmode : ∃ path ∈ videolist host, host.video.HasMode path)
      (hfind : findVideoDeviceFmt fps host.video data' = true) :
      Captured fps host data (true, data')
  | entity {data' : V4l2srcData} (hentity : host.FromEntity data') :
      Captured fps host data (true, data')
  | nothing (hudev : host.udev ≠ none)
      (hnode : ¬ ∃ path ∈ videolist host, host.video.HasMode path)
      (hentity : ¬ ∃ data', host.FromEntity data') : Captured fps host data (true, data)
  | refused (hudev : host.udev = none) : Captured fps host data (false, data)

theorem captured (fps : Fract → Int32) (host : Host) (data : V4l2srcData) :
    Captured fps host data (getCaptureDevice fps host data) := by
  rcases searchMode_cases fps host data (videolist host) with
    ⟨hmode, -⟩ | ⟨path, hpath, hmode, hfind⟩
  · rcases searchDefault_cases fps host data (videolist host) with
      ⟨hdefault, hnode⟩ | ⟨path, hpath, hhas, data', hdefault, hfind⟩
    · cases hudev : host.udev with
      | none =>
        have heq : getCaptureDevice fps host data = (false, data) := by
          simp [getCaptureDevice, hmode, hdefault, enumerateUdevList, hudev]
        exact heq ▸ .refused hudev
      | some entries =>
        have heq : getCaptureDevice fps host data = (true, probeEntries host data entries) := by
          simp [getCaptureDevice, hmode, hdefault, enumerateUdevList, hudev]
        rw [heq]
        rcases probeEntries_cases host data entries with
          ⟨hsame, hnone⟩ | ⟨mpath, hmem, m, hm, hnames⟩
        · rw [hsame]
          refine .nothing (by simp [hudev]) (fun ⟨path, hpath, h⟩ ↦ hnode path hpath h) ?_
          rintro ⟨data', entries', hentries, mpath, hmem, m, hm, hnames⟩
          obtain rfl := Option.some.inj (hudev.symm.trans hentries)
          exact hnone mpath hmem m hm data' hnames
        · exact .entity ⟨entries, hudev, mpath, hmem, m, hm, hnames⟩
    · have heq : getCaptureDevice fps host data = (true, data') := by
        simp [getCaptureDevice, hmode, hdefault]
      exact heq ▸ .node ⟨path, hpath, hhas⟩ hfind
  · have heq : getCaptureDevice fps host data = (true, { data with device := some path }) := by
      simp [getCaptureDevice, hmode]
    exact heq ▸ .node ⟨path, hpath, hasMode_of_findVideoDeviceFmt hfind⟩ hfind

/-- What `main` relies on: a device that was chosen has the mode that was chosen, or is that of a
known entity, and without a device nothing has been changed. -/
structure Host.Reliable (fps : Fract → Int32) (host : Host) (data : V4l2srcData) : Prop where
  chosen : (getCaptureDevice fps host data).1 = true →
    findVideoDeviceFmt fps host.video (getCaptureDevice fps host data).2 = true ∨
      host.FromEntity (getCaptureDevice fps host data).2
  unchanged : (getCaptureDevice fps host data).1 = false → (getCaptureDevice fps host data).2 = data

/-- **The answer** can be relied on unless udev works and there is nothing to be found. -/
theorem reliable_iff (fps : Fract → Int32) (host : Host) (data : V4l2srcData) :
    host.Reliable fps data ↔
      host.udev = none ∨ findVideoDeviceFmt fps host.video data = true ∨
        (∃ path ∈ videolist host, host.video.HasMode path) ∨ ∃ data', host.FromEntity data' := by
  obtain ⟨r, hr⟩ : ∃ r, r = getCaptureDevice fps host data := ⟨_, rfl⟩
  have hreliable : host.Reliable fps data ↔
      (r.1 = true → findVideoDeviceFmt fps host.video r.2 = true ∨ host.FromEntity r.2) ∧
        (r.1 = false → r.2 = data) := by
    rw [hr]
    exact ⟨fun h ↦ ⟨h.chosen, h.unchanged⟩, fun h ↦ ⟨h.1, h.2⟩⟩
  have hcaptured := captured fps host data
  rw [hreliable]
  rw [← hr] at hcaptured
  cases hcaptured with
  | node hmode hfind => exact iff_of_true ⟨fun _ ↦ .inl hfind, nofun⟩ (.inr (.inr (.inl hmode)))
  | entity hentity =>
    exact iff_of_true ⟨fun _ ↦ .inr hentity, nofun⟩ (.inr (.inr (.inr ⟨_, hentity⟩)))
  | nothing hudev hnode hentity =>
    rw [or_iff_right hudev, or_iff_left (not_or.mpr ⟨hnode, hentity⟩)]
    constructor
    · intro h
      exact (h.1 rfl).resolve_right fun h ↦ hentity ⟨data, h⟩
    · exact fun h ↦ ⟨fun _ ↦ .inl h, nofun⟩
  | refused hudev => exact iff_of_true ⟨nofun, fun _ ↦ rfl⟩ (.inl hudev)

end

/-- A machine without cameras. -/
def Host.bare : Host where
  devDir := some []
  video := fun _ ↦ none
  udev := some []
  media := fun _ ↦ none

/-- It is said to have one. -/
theorem exists_not_reliable :
    ∃ (fps : Fract → Int32) (host : Host) (data : V4l2srcData), ¬ host.Reliable fps data := by
  refine ⟨gfloatFps, .bare, {}, fun h ↦ ?_⟩
  rcases h.chosen rfl with hfind | ⟨entries, hudev, mpath, hmem, -⟩
  · exact Bool.false_ne_true hfind
  · obtain rfl := Option.some.inj hudev
    exact List.not_mem_nil hmem

end GstWebrtcCamera
