import RaucUpdate.Model.Utils

/-!
# Image types and update handlers

The tables of `update_handler.c` that decide which image types exist, which type a file name
stands for, and which handler writes an image of one type to a slot of another.
-/

namespace RaucUpdate

open Library

/-- `g_pattern_match_simple`: `*` stands for any text and `?` for any character. -/
def patternMatch : List Char → List Char → Bool
  | [], s => s.isEmpty
  | c :: p, s =>
    if c = '*' then s.tails.any (patternMatch p)
    else
      match s with
      | [] => false
      | d :: s => (c == '?' || c == d) && patternMatch p s

/-- Ordered with the more specific patterns first. -/
def extTypeMap : List (String × String) :=
  [("*.ext4.caibx", "ext4-caibx"), ("*.vfat.caibx", "vfat-caibx"), ("*.ubifs.caibx", "ubifs-caibx"),
    ("*.img.caibx", "raw-caibx"), ("*.squashfs.caibx", "squashfs-caibx"),
      ("*.squashfs-*.caibx", "squashfs-caibx"),
    ("*.catar", "catar"), ("*.caidx", "caidx"), ("*.tar*", "tar"), ("*.tgz", "tar"),
      ("*.ext4", "ext4"),
    ("*.vfat", "vfat"), ("*.img", "raw"), ("*.squashfs-*", "squashfs"), ("*.squashfs", "squashfs"),
    ("*.ubifs", "ubifs")]

def deriveImageTypeFromFilenamePattern (filename : String) : Option String :=
  (extTypeMap.find? (fun e => patternMatch e.1.toList filename.toList)).map Prod.snd

inductive SlotHandler where
  | imgToFs | imgToRaw | imgToUbivol | imgToUbifs | imgToNor | imgToNand
  | archiveToExt4 | archiveToUbifs | archiveToVfat | archiveToJffs2
  | imgToBootEmmc | imgToBootMbrSwitch | imgToBootGptSwitch | imgToBootRawFallback
  | hookInstall
  deriving DecidableEq

/-- `image_type_map`, with the eMMC and GPT support compiled in: image type, slot type, handler. -/
def imageTypeMap : List (String × String × SlotHandler) :=
  [("ext4-caibx", "ext4", .imgToFs), ("raw-caibx", "ext4", .imgToRaw),
    ("ext4-caibx", "raw", .imgToRaw),
    ("vfat-caibx", "raw", .imgToRaw), ("raw-caibx", "raw", .imgToRaw),
      ("raw-caibx", "vfat", .imgToRaw),
    ("raw-caibx", "jffs2", .imgToRaw), ("raw-caibx", "nor", .imgToRaw),
      ("raw-caibx", "nand", .imgToRaw),
    ("squashfs-caibx", "raw", .imgToRaw), ("squashfs-caibx", "ubivol", .imgToUbivol),
    ("ubifs-caibx", "ubivol", .imgToUbivol), ("raw-caibx", "ubivol", .imgToUbivol),
    ("ubifs-caibx", "ubifs", .imgToUbifs), ("raw-caibx", "ubifs", .imgToUbifs),
    ("caidx", "ext4", .archiveToExt4), ("caidx", "ubifs", .archiveToUbifs),
      ("caidx", "vfat", .archiveToVfat),
    ("catar", "ext4", .archiveToExt4), ("ext4", "ext4", .imgToFs), ("ext4", "raw", .imgToRaw),
    ("vfat", "vfat", .imgToFs), ("vfat", "raw", .imgToRaw), ("squashfs", "ubivol", .imgToUbivol),
    ("squashfs", "raw", .imgToRaw), ("ubifs", "ubivol", .imgToUbivol),
      ("ubifs", "ubifs", .imgToUbifs),
    ("raw", "ext4", .imgToFs), ("raw", "nor", .imgToNor), ("raw", "nand", .imgToNand),
    ("raw", "ubifs", .imgToUbifs), ("raw", "ubivol", .imgToUbivol), ("raw", "vfat", .imgToFs),
    ("raw", "raw", .imgToRaw), ("raw", "jffs2", .imgToRaw), ("tar", "ext4", .archiveToExt4),
    ("tar", "ubifs", .archiveToUbifs), ("tar", "vfat", .archiveToVfat),
      ("tar", "jffs2", .archiveToJffs2),
    ("raw", "boot-emmc", .imgToBootEmmc), ("vfat", "boot-mbr-switch", .imgToBootMbrSwitch),
    ("raw", "boot-mbr-switch", .imgToBootMbrSwitch),
      ("vfat", "boot-gpt-switch", .imgToBootGptSwitch),
    ("ext4", "boot-gpt-switch", .imgToBootGptSwitch),
      ("raw", "boot-gpt-switch", .imgToBootGptSwitch),
    ("raw", "boot-raw-fallback", .imgToBootRawFallback), ("emptyfs", "ext4", .archiveToExt4)]

def getHandlerFromType (imageType slotType : String) : Option SlotHandler :=
  (imageTypeMap.find? (fun e => e.1 == imageType && e.2.1 == slotType)).map (fun e => e.2.2)

def isImageTypeSupported (type : String) : Bool := imageTypeMap.any (fun e => e.1 == type)

end RaucUpdate
