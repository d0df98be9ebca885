/-!
# The key map of GTK

`key_mapping.g.cc`: from key codes to physical keys, from keyvals to logical keys.
-/

namespace FlutterEngine.Linux

/-- By XKB key code. -/
def xkbToPhysicalKeyMap : List (UInt64 × UInt64) :=
  [(0x9, 0x70029), (0xa, 0x7001e), (0xb, 0x7001f), (0xc, 0x70020), (0xd, 0x70021), (0xe, 0x70022),
    (0xf, 0x70023), (0x10, 0x70024), (0x11, 0x70025), (0x12, 0x70026), (0x13, 0x70027),
    (0x14, 0x7002d), (0x15, 0x7002e), (0x16, 0x7002a), (0x17, 0x7002b), (0x18, 0x70014),
    (0x19, 0x7001a), (0x1a, 0x70008), (0x1b, 0x70015), (0x1c, 0x70017), (0x1d, 0x7001c),
    (0x1e, 0x70018), (0x1f, 0x7000c), (0x20, 0x70012), (0x21, 0x70013), (0x22, 0x7002f),
    (0x23, 0x70030), (0x24, 0x70028), (0x25, 0x700e0), (0x26, 0x70004), (0x27, 0x70016),
    (0x28, 0x70007), (0x29, 0x70009), (0x2a, 0x7000a), (0x2b, 0x7000b), (0x2c, 0x7000d),
    (0x2d, 0x7000e), (0x2e, 0x7000f), (0x2f, 0x70033), (0x30, 0x70034), (0x31, 0x70035),
    (0x32, 0x700e1), (0x33, 0x70031), (0x34, 0x7001d), (0x35, 0x7001b), (0x36, 0x70006),
    (0x37, 0x70019), (0x38, 0x70005), (0x39, 0x70011), (0x3a, 0x70010), (0x3b, 0x70036),
    (0x3c, 0x70037), (0x3d, 0x70038), (0x3e, 0x700e5), (0x3f, 0x70055), (0x40, 0x700e2),
    (0x41, 0x7002c), (0x42, 0x70039), (0x43, 0x7003a), (0x44, 0x7003b), (0x45, 0x7003c),
    (0x46, 0x7003d), (0x47, 0x7003e), (0x48, 0x7003f), (0x49, 0x70040), (0x4a, 0x70041),
    (0x4b, 0x70042), (0x4c, 0x70043), (0x4d, 0x70053), (0x4e, 0x70047), (0x4f, 0x7005f),
    (0x50, 0x70060), (0x51, 0x70061), (0x52, 0x70056), (0x53, 0x7005c), (0x54, 0x7005d),
    (0x55, 0x7005e), (0x56, 0x70057), (0x57, 0x70059), (0x58, 0x7005a), (0x59, 0x7005b),
    (0x5a, 0x70062), (0x5b, 0x70063), (0x5d, 0x70094), (0x5e, 0x70064), (0x5f, 0x70044),
    (0x60, 0x70045), (0x61, 0x70087), (0x62, 0x70092), (0x63, 0x70093), (0x64, 0x7008a),
    (0x65, 0x70088), (0x66, 0x7008b), (0x68, 0x70058), (0x69, 0x700e4), (0x6a, 0x70054),
    (0x6b, 0x70046), (0x6c, 0x700e6), (0x6e, 0x7004a), (0x6f, 0x70052), (0x70, 0x7004b),
    (0x71, 0x70050), (0x72, 0x7004f), (0x73, 0x7004d), (0x74, 0x70051), (0x75, 0x7004e),
    (0x76, 0x70049), (0x77, 0x7004c), (0x79, 0x7007f), (0x7a, 0x70081), (0x7b, 0x70080),
    (0x7c, 0x70066), (0x7d, 0x70067), (0x7e, 0x700d7), (0x7f, 0x70048), (0x80, 0xc029f),
    (0x81, 0x70085), (0x82, 0x70090), (0x83, 0x70091), (0x84, 0x70089), (0x85, 0x700e3),
    (0x86, 0x700e7), (0x87, 0x70065), (0x88, 0xc0226), (0x89, 0x70079), (0x8b, 0x7007a),
    (0x8c, 0x70077), (0x8d, 0x7007c), (0x8e, 0x70074), (0x8f, 0x7007d), (0x90, 0x7007e),
    (0x91, 0x7007b), (0x92, 0x70075), (0x94, 0xc0192), (0x96, 0x10082), (0x97, 0x10083),
    (0x98, 0xc0194), (0x9e, 0xc0196), (0xa0, 0xc019e), (0xa3, 0xc018a), (0xa4, 0xc022a),
    (0xa6, 0xc0224), (0xa7, 0xc0225), (0xa9, 0xc00b8), (0xab, 0xc00b5), (0xac, 0xc00cd),
    (0xad, 0xc00b6), (0xae, 0xc00b7), (0xaf, 0xc00b2), (0xb0, 0xc00b4), (0xb1, 0xc008c),
    (0xb3, 0xc0183), (0xb4, 0xc0223), (0xb5, 0xc0227), (0xb6, 0xc0094), (0xbb, 0x700b6),
    (0xbc, 0x700b7), (0xbd, 0xc0201), (0xbe, 0xc0279), (0xbf, 0x70068), (0xc0, 0x70069),
    (0xc1, 0x7006a), (0xc2, 0x7006b), (0xc3, 0x7006c), (0xc4, 0x7006d), (0xc5, 0x7006e),
    (0xc6, 0x7006f), (0xc7, 0x70070), (0xc8, 0x70071), (0xc9, 0x70072), (0xca, 0x70073),
    (0xd1, 0xc00b1), (0xd6, 0xc0203), (0xd7, 0xc00b0), (0xd8, 0xc00b3), (0xd9, 0xc00e5),
    (0xda, 0xc0208), (0xe1, 0xc0221), (0xe8, 0xc0070), (0xe9, 0xc006f), (0xeb, 0x100b5),
    (0xed, 0xc007a), (0xee, 0xc0079), (0xef, 0xc028c), (0xf0, 0xc0289), (0xf1, 0xc028b),
    (0xf2, 0xc0207), (0xf3, 0xc01a7), (0xfc, 0xc0075), (0x100, 0x18), (0x16e, 0xc0060),
    (0x172, 0xc008d), (0x17a, 0xc0061), (0x17c, 0xc0232), (0x17e, 0xc01ae), (0x190, 0xc01b7),
    (0x195, 0xc018e), (0x19d, 0xc0083), (0x1a2, 0xc009c), (0x1a3, 0xc009d), (0x1aa, 0xc022d),
    (0x1ab, 0xc022e), (0x1ad, 0xc0184), (0x1af, 0xc0186), (0x1b5, 0xc018d), (0x1b7, 0xc0072),
    (0x1b8, 0xc01ab), (0x1b9, 0xc019c), (0x24b, 0xc019f), (0x24c, 0xc01a2), (0x24d, 0xc01b1),
    (0x24e, 0xc00cf), (0x24f, 0xc01cb), (0x250, 0xc029d), (0x258, 0xc0073), (0x259, 0xc0074),
    (0x281, 0x17)]

/-- By GDK keyval. -/
def gtkKeyvalToLogicalKeyMap : List (UInt64 × UInt64) :=
  [(0xa5, 0x200000022), (0xfd06, 0x100000405), (0xfd0e, 0x100000503), (0xfd15, 0x100000402),
    (0xfd16, 0x100000d2f), (0xfd1b, 0x100000406), (0xfd1d, 0x100000608), (0xfd1e, 0x10000000d),
    (0xfe03, 0x200000105), (0xfe08, 0x100000709), (0xfe0a, 0x10000070a), (0xfe0c, 0x100000707),
    (0xfe0e, 0x100000708), (0xfe20, 0x100000009), (0xfe34, 0x10000000d), (0xff08, 0x100000008),
    (0xff09, 0x100000009), (0xff0b, 0x100000401), (0xff0d, 0x10000000d), (0xff13, 0x100000509),
    (0xff14, 0x10000010c), (0xff1b, 0x10000001b), (0xff21, 0x100000719), (0xff24, 0x10000071b),
    (0xff25, 0x100000716), (0xff26, 0x10000071a), (0xff27, 0x100000717), (0xff28, 0x10000071c),
    (0xff29, 0x100000715), (0xff2a, 0x10000071d), (0xff2f, 0x100000714), (0xff31, 0x100000711),
    (0xff34, 0x100000712), (0xff37, 0x100000703), (0xff3c, 0x100000710), (0xff3e, 0x10000070e),
    (0xff50, 0x100000306), (0xff51, 0x100000302), (0xff52, 0x100000304), (0xff53, 0x100000303),
    (0xff54, 0x100000301), (0xff55, 0x100000308), (0xff56, 0x100000307), (0xff57, 0x100000305),
    (0xff60, 0x10000050c), (0xff61, 0x100000a0c), (0xff62, 0x100000506), (0xff63, 0x100000407),
    (0xff65, 0x10000040a), (0xff66, 0x100000409), (0xff67, 0x100000505), (0xff68, 0x100000507),
    (0xff69, 0x100000504), (0xff6a, 0x100000508), (0xff7e, 0x10000070b), (0xff7f, 0x10000010a),
    (0xff80, 0x20), (0xff89, 0x100000009), (0xff8d, 0x20000020d), (0xff91, 0x100000801),
    (0xff92, 0x100000802), (0xff93, 0x100000803), (0xff94, 0x100000804), (0xff95, 0x200000237),
    (0xff96, 0x200000234), (0xff97, 0x200000238), (0xff98, 0x200000236), (0xff99, 0x200000232),
    (0xff9a, 0x200000239), (0xff9b, 0x200000233), (0xff9c, 0x200000231), (0xff9e, 0x200000230),
    (0xff9f, 0x20000022e), (0xffaa, 0x20000022a), (0xffab, 0x20000022b), (0xffad, 0x20000022d),
    (0xffae, 0x2e), (0xffaf, 0x20000022f), (0xffb0, 0x200000230), (0xffb1, 0x200000231),
    (0xffb2, 0x200000232), (0xffb3, 0x200000233), (0xffb4, 0x200000234), (0xffb5, 0x200000235),
    (0xffb6, 0x200000236), (0xffb7, 0x200000237), (0xffb8, 0x200000238), (0xffb9, 0x200000239),
    (0xffbd, 0x20000023d), (0xffbe, 0x100000801), (0xffbf, 0x100000802), (0xffc0, 0x100000803),
    (0xffc1, 0x100000804), (0xffc2, 0x100000805), (0xffc3, 0x100000806), (0xffc4, 0x100000807),
    (0xffc5, 0x100000808), (0xffc6, 0x100000809), (0xffc7, 0x10000080a), (0xffc8, 0x10000080b),
    (0xffc9, 0x10000080c), (0xffca, 0x10000080d), (0xffcb, 0x10000080e), (0xffcc, 0x10000080f),
    (0xffcd, 0x100000810), (0xffce, 0x100000811), (0xffcf, 0x100000812), (0xffd0, 0x100000813),
    (0xffd1, 0x100000814), (0xffd2, 0x100000815), (0xffd3, 0x100000816), (0xffd4, 0x100000817),
    (0xffd5, 0x100000818), (0xffe1, 0x200000102), (0xffe2, 0x200000103), (0xffe3, 0x200000100),
    (0xffe4, 0x200000101), (0xffe5, 0x100000104), (0xffe7, 0x200000106), (0xffe8, 0x200000107),
    (0xffe9, 0x200000104), (0xffea, 0x200000105), (0xffeb, 0x10000010e), (0xffec, 0x10000010e),
    (0xffed, 0x100000108), (0xffee, 0x100000108), (0xffff, 0x10000007f), (0x1008ff02, 0x100000602),
    (0x1008ff03, 0x100000601), (0x1008ff10, 0x10000060a), (0x1008ff11, 0x100000a0f),
    (0x1008ff12, 0x100000a11), (0x1008ff13, 0x100000a10), (0x1008ff14, 0x100000d2f),
    (0x1008ff15, 0x100000a07), (0x1008ff16, 0x100000a09), (0x1008ff17, 0x100000a08),
    (0x1008ff18, 0x100000c04), (0x1008ff19, 0x100000b03), (0x1008ff1b, 0x100000c06),
    (0x1008ff1c, 0x100000d30), (0x1008ff20, 0x100000b02), (0x1008ff26, 0x100000c01),
    (0x1008ff27, 0x100000c03), (0x1008ff28, 0x100000c07), (0x1008ff29, 0x100000c05),
    (0x1008ff2a, 0x100000607), (0x1008ff2b, 0x10000060b), (0x1008ff2c, 0x100000604),
    (0x1008ff2d, 0x100000b07), (0x1008ff2f, 0x200000002), (0x1008ff30, 0x100000c02),
    (0x1008ff31, 0x100000d2e), (0x1008ff3e, 0x100000d31), (0x1008ff56, 0x100000a01),
    (0x1008ff57, 0x100000402), (0x1008ff58, 0x100000404), (0x1008ff61, 0x100000605),
    (0x1008ff68, 0x100000a0a), (0x1008ff6b, 0x100000a0b), (0x1008ff6d, 0x100000408),
    (0x1008ff6e, 0x100000b0d), (0x1008ff72, 0x100000a03), (0x1008ff77, 0x100000a0d),
    (0x1008ff7b, 0x100000a04), (0x1008ff7c, 0x100000a0e), (0x1008ff8b, 0x10000050d),
    (0x1008ff8c, 0x10000050e), (0x1008ff90, 0x100000a02), (0x1008ff97, 0x100000d2c),
    (0x1008ffa7, 0x200000000)]

def kValueMask : UInt64 := 0xffffffff

def kUnicodePlane : UInt64 := 0

def kGtkPlane : UInt64 := 0x1500000000

end FlutterEngine.Linux
