import JsxDetect.Automaton.Packed

/-!
# Parsing automaton: states 5120 to 5631

Packed rows; see `PackedRow` for the layout.
-/

namespace JsxDetect.Automaton

/-- States 5120 to 5183. -/
def states5120 : List PackedRow := [
  ⟨1, 2, 0x80000015f809, 0x3d026⟩,
  ⟨1, 2, 0x800000106024, 0x50b01c⟩,
  ⟨1, 2, 0x800000031c02, 0x550401⟩,
  ⟨1, 2, 0x2adc118000002ad807, 0x0⟩,
  ⟨1, 2, 0x2ae8118000002ae407, 0x0⟩,
  ⟨1, 2, 0x2af0118000002aec07, 0x0⟩,
  ⟨1, 2, 0x800000005809, 0x21fc20⟩,
  ⟨1, 2, 0x800000005009, 0x3d820⟩,
  ⟨1, 2, 0x800000845cc8, 0x0⟩,
  ⟨1, 2, 0x800000845cc8, 0x0⟩,
  ⟨1, 2, 0x80000085a4c8, 0x0⟩,
  ⟨1, 2, 0x800000160c09, 0xd2426⟩,
  ⟨1, 2, 0x800000031c02, 0x3bfc01⟩,
  ⟨1, 2, 0x135011800000134c07, 0x0⟩,
  ⟨1, 2, 0x80000015f809, 0x3dc26⟩,
  ⟨1, 2, 0x80000015d409, 0x221026⟩,
  ⟨1, 2, 0x80000085a867, 0x0⟩,
  ⟨1, 2, 0x8000008a0867, 0x0⟩,
  ⟨1, 2, 0x800000160409, 0xb9026⟩,
  ⟨1, 2, 0x800000007009, 0xb9820⟩,
  ⟨1, 2, 0x800000160409, 0xb9c26⟩,
  ⟨1, 5, 0xd50578000000d5446, 0x0⟩,
  ⟨1, 2, 0x80000085c467, 0x0⟩,
  ⟨1, 2, 0x80000085c467, 0x0⟩,
  ⟨1, 2, 0x80000085ac67, 0x0⟩,
  ⟨1, 5, 0x80000080a468, 0x0⟩,
  ⟨1, 2, 0x800000004809, 0x50ec20⟩,
  ⟨1, 2, 0x80000083a867, 0x0⟩,
  ⟨1, 2, 0x800000004809, 0x50f420⟩,
  ⟨1, 2, 0x80000083a867, 0x0⟩,
  ⟨1, 2, 0x80000015d409, 0x221426⟩,
  ⟨1, 2, 0x800000005809, 0x221820⟩,
  ⟨1, 2, 0x800000005809, 0x221c20⟩,
  ⟨1, 2, 0x80000015d409, 0x222026⟩,
  ⟨1, 2, 0x8000000560d1, 0x0⟩,
  ⟨1, 2, 0x8000008a0cd6, 0x0⟩,
  ⟨1, 2, 0x80000015ec09, 0x263426⟩,
  ⟨1, 2, 0x80000015ec09, 0x263c26⟩,
  ⟨1, 2, 0x800000032c02, 0x35c001⟩,
  ⟨1, 2, 0x2a4c118000002a4807, 0x0⟩,
  ⟨1, 2, 0x2a54118000002a5007, 0x0⟩,
  ⟨1, 2, 0x2a64118000002a6007, 0x0⟩,
  ⟨1, 2, 0x2a74118000002a7007, 0x0⟩,
  ⟨1, 2, 0x800000106024, 0x51181c⟩,
  ⟨1, 2, 0x8000008a109a, 0x0⟩,
  ⟨1, 2, 0x8000008a149a, 0x0⟩,
  ⟨1, 2, 0x800000031c02, 0x552c01⟩,
  ⟨1, 2, 0x800000005009, 0x3e420⟩,
  ⟨1, 2, 0x8000008a18c8, 0x0⟩,
  ⟨1, 2, 0x800000160c09, 0xd6826⟩,
  ⟨1, 2, 0x8000008a1c67, 0x0⟩,
  ⟨1, 2, 0x80000015f809, 0x3e826⟩,
  ⟨1, 2, 0x800000160c09, 0xd8426⟩,
  ⟨1, 2, 0x8000008a2067, 0x0⟩,
  ⟨1, 2, 0x800000007009, 0xba420⟩,
  ⟨1, 2, 0x800000160409, 0xba826⟩,
  ⟨1, 2, 0x80000085c867, 0x0⟩,
  ⟨1, 2, 0x80000085c867, 0x0⟩,
  ⟨1, 5, 0x800000812068, 0x0⟩,
  ⟨1, 2, 0x80000083ac67, 0x0⟩,
  ⟨1, 2, 0x800000004809, 0x512820⟩,
  ⟨1, 2, 0x80000083ac67, 0x0⟩,
  ⟨1, 2, 0x800000004809, 0x513020⟩,
  ⟨1, 2, 0x800000005809, 0x224c20⟩]

/-- States 5184 to 5247. -/
def states5184 : List PackedRow := [
  ⟨1, 2, 0x80000015d409, 0x225026⟩,
  ⟨1, 2, 0x800000055c8905587e, 0x0⟩,
  ⟨1, 2, 0x80000015ec09, 0x265026⟩,
  ⟨1, 2, 0x800000004809, 0xbac20⟩,
  ⟨1, 2, 0x8000000f6c240f307e, 0x0⟩,
  ⟨1, 2, 0x800000032c02, 0x364001⟩,
  ⟨1, 2, 0x8000008a249a, 0x0⟩,
  ⟨1, 2, 0x80000085b49a, 0x0⟩,
  ⟨1, 2, 0x800000846067, 0x0⟩,
  ⟨1, 2, 0x800000160c09, 0xdb026⟩,
  ⟨1, 2, 0x80000083b067, 0x0⟩,
  ⟨1, 2, 0x800000004809, 0x513c20⟩,
  ⟨1, 2, 0x80000083b067, 0x0⟩,
  ⟨1, 2, 0x800000004809, 0x514420⟩,
  ⟨1, 2, 0x800000004809, 0xbb020⟩,
  ⟨1, 2, 0x80000083b467, 0x0⟩,
  ⟨1, 2, 0x800000004809, 0x514c20⟩,
  ⟨1, 2, 0x80000083b467, 0x0⟩,
  ⟨1, 2, 0x800000004809, 0x515420⟩,
  ⟨1, 2, 0x80000083b867, 0x0⟩,
  ⟨1, 2, 0x800000004809, 0x515c20⟩,
  ⟨1, 2, 0x80000083b867, 0x0⟩,
  ⟨1, 2, 0x800000004809, 0x516420⟩,
  ⟨1, 2, 0x80000083bc67, 0x0⟩,
  ⟨1, 2, 0x800000004809, 0x516820⟩,
  ⟨1, 2, 0x80000083bc67, 0x0⟩,
  ⟨1, 2, 0x800000853067, 0x0⟩,
  ⟨1, 5, 0x800000812068, 0x0⟩,
  ⟨1, 5, 0x800000827868, 0x0⟩,
  ⟨1, 5, 0x800000827868, 0x0⟩,
  ⟨1, 2, 0x800000032802, 0x327401⟩,
  ⟨1, 2, 0x80000015ec09, 0x18d826⟩,
  ⟨1, 2, 0x800000006009, 0x18e020⟩,
  ⟨1, 2, 0x800000007009, 0x405820⟩,
  ⟨1, 2, 0x80000028c409, 0x40607a⟩,
  ⟨1, 2, 0x11fc1180000011f807, 0x0⟩,
  ⟨1, 2, 0x120411800000120007, 0x0⟩,
  ⟨1, 5, 0x407857800000407c46, 0x0⟩,
  ⟨1, 2, 0x800000007409, 0x274020⟩,
  ⟨1, 2, 0x80000028c409, 0x40987a⟩,
  ⟨1, 2, 0x80000015d409, 0x228826⟩,
  ⟨1, 2, 0x80000015ec09, 0x193026⟩,
  ⟨1, 2, 0x800000006009, 0x193820⟩,
  ⟨1, 2, 0x800000006009, 0x194420⟩,
  ⟨1, 2, 0x800000042802, 0x294029⟩,
  ⟨1, 2, 0x800000041c02, 0x196829⟩,
  ⟨1, 2, 0x800000196c554f8824, 0x0⟩,
  ⟨1, 2, 0x80000055981d197055, 0x0⟩,
  ⟨1, 2, 0x80000015ec09, 0x197426⟩,
  ⟨1, 5, 0x40c05780000040c446, 0x0⟩,
  ⟨1, 5, 0x80000040c868, 0x0⟩,
  ⟨1, 2, 0x800000160409, 0x40cc26⟩,
  ⟨1, 2, 0x800000007409, 0x274420⟩,
  ⟨1, 2, 0x800000007409, 0x274820⟩,
  ⟨1, 2, 0x80000015ec09, 0x197c26⟩,
  ⟨1, 2, 0x800000006009, 0x198420⟩,
  ⟨1, 2, 0x80000015d409, 0x229c26⟩,
  ⟨1, 2, 0x1ea8118000001ea407, 0x0⟩,
  ⟨1, 2, 0x1ebc118000001eb807, 0x0⟩,
  ⟨1, 2, 0x1ec4118000001ec007, 0x0⟩,
  ⟨1, 2, 0x800000006009, 0x198c20⟩,
  ⟨1, 2, 0x800000005809, 0x22a820⟩,
  ⟨1, 2, 0x800000160409, 0x40f426⟩,
  ⟨1, 2, 0x121411800000121007, 0x0⟩]

/-- States 5248 to 5311. -/
def states5248 : List PackedRow := [
  ⟨1, 2, 0x80000015d409, 0x22ac26⟩,
  ⟨1, 2, 0x80000015ec09, 0x199826⟩,
  ⟨1, 2, 0x800000160409, 0x411426⟩,
  ⟨1, 2, 0x800000160409, 0x411826⟩,
  ⟨1, 2, 0x800000007409, 0x274c20⟩,
  ⟨1, 2, 0x800000007409, 0x275020⟩,
  ⟨1, 2, 0x80000015ec09, 0x199c26⟩,
  ⟨1, 2, 0x800000006009, 0x19a020⟩,
  ⟨1, 2, 0x800000006009, 0x19a420⟩,
  ⟨1, 2, 0x80000015ec09, 0x19a826⟩,
  ⟨1, 2, 0x1ee4118000001ee007, 0x0⟩,
  ⟨1, 2, 0x1eec118000001ee807, 0x0⟩,
  ⟨1, 2, 0x1ef4118000001ef007, 0x0⟩,
  ⟨1, 2, 0x1efc118000001ef807, 0x0⟩,
  ⟨1, 2, 0x800000005809, 0x22b820⟩,
  ⟨1, 2, 0x800000160409, 0x413026⟩,
  ⟨1, 2, 0x80000015d409, 0x22bc26⟩,
  ⟨1, 2, 0x800000160409, 0x414426⟩,
  ⟨1, 2, 0x800000160409, 0x414c26⟩,
  ⟨1, 2, 0x800000007409, 0x275420⟩,
  ⟨1, 2, 0x800000007409, 0x275820⟩,
  ⟨1, 2, 0x800000006009, 0x19b020⟩,
  ⟨1, 2, 0x80000015ec09, 0x19b426⟩,
  ⟨1, 2, 0x800000160409, 0x416426⟩,
  ⟨1, 2, 0x800000007409, 0x275c20⟩,
  ⟨1, 2, 0x800000007409, 0x276020⟩,
  ⟨1, 2, 0x800000007409, 0x276420⟩,
  ⟨1, 2, 0x800000007409, 0x276820⟩,
  ⟨1, 2, 0x800000007409, 0x276c20⟩,
  ⟨1, 2, 0x800000007409, 0x277020⟩,
  ⟨1, 2, 0x800000007409, 0x277420⟩,
  ⟨1, 2, 0x800000032c02, 0x30dc01⟩,
  ⟨1, 2, 0x80000015d409, 0x22d426⟩,
  ⟨1, 2, 0x8000004190554f8824, 0x0⟩,
  ⟨1, 2, 0x80000055981d419455, 0x0⟩,
  ⟨1, 2, 0x80000015d409, 0x22f426⟩,
  ⟨1, 2, 0x2db0118000002dac07, 0x0⟩,
  ⟨1, 2, 0x2dbc118000002db807, 0x0⟩,
  ⟨1, 2, 0x2dc4118000002dc007, 0x0⟩,
  ⟨1, 2, 0x800000005809, 0x22fc20⟩,
  ⟨1, 2, 0x137411800000137007, 0x0⟩,
  ⟨1, 2, 0x80000015d409, 0x230026⟩,
  ⟨1, 2, 0x2bd8118000002bd407, 0x0⟩,
  ⟨1, 2, 0x2be0118000002bdc07, 0x0⟩,
  ⟨1, 2, 0x2bf0118000002bec07, 0x0⟩,
  ⟨1, 2, 0x2c00118000002bfc07, 0x0⟩,
  ⟨1, 2, 0x800000005809, 0x230820⟩,
  ⟨1, 2, 0x80000015d409, 0x230c26⟩,
  ⟨1, 2, 0x80000041c8554f8824, 0x0⟩,
  ⟨1, 2, 0x80000055981d41cc55, 0x0⟩,
  ⟨1, 2, 0x17f81180000017f407, 0x0⟩,
  ⟨1, 2, 0x180c11800000180807, 0x0⟩,
  ⟨1, 2, 0x181411800000181007, 0x0⟩,
  ⟨1, 2, 0x145c11800000145807, 0x0⟩,
  ⟨1, 2, 0x182c11800000182807, 0x0⟩,
  ⟨1, 2, 0x183411800000183007, 0x0⟩,
  ⟨1, 2, 0x183c11800000183807, 0x0⟩,
  ⟨1, 2, 0x184411800000184007, 0x0⟩,
  ⟨1, 2, 0x304c11800000304807, 0x0⟩,
  ⟨1, 2, 0x305411800000305007, 0x0⟩,
  ⟨1, 2, 0x305c11800000305807, 0x0⟩,
  ⟨1, 2, 0x145011800000144c07, 0x0⟩,
  ⟨1, 2, 0x2de8118000002de407, 0x0⟩,
  ⟨1, 2, 0x2df0118000002dec07, 0x0⟩]

/-- States 5312 to 5375. -/
def states5312 : List PackedRow := [
  ⟨1, 2, 0x2e00118000002dfc07, 0x0⟩,
  ⟨1, 2, 0x2e10118000002e0c07, 0x0⟩,
  ⟨1, 2, 0x14a011800000149c07, 0x0⟩,
  ⟨1, 2, 0x138011800000137c07, 0x0⟩,
  ⟨1, 2, 0x800000051402, 0xc42b⟩,
  ⟨1, 2, 0x800000051402, 0xc82b⟩,
  ⟨1, 2, 0x800000051402, 0xd02b⟩,
  ⟨1, 2, 0x80000045b0a2, 0x519460⟩,
  ⟨1, 2, 0x80000004d802, 0xd46f⟩,
  ⟨1, 2, 0x800000031c02, 0x55d001⟩,
  ⟨1, 2, 0x800000031c02, 0x421c01⟩,
  ⟨1, 2, 0x8000004da407, 0x4da815⟩,
  ⟨1, 2, 0x800000031c02, 0x55dc01⟩,
  ⟨1, 2, 0x800000031c02, 0x423001⟩,
  ⟨1, 2, 0x800000007009, 0x423820⟩,
  ⟨1, 2, 0x800000031c02, 0x55e401⟩,
  ⟨1, 2, 0x800000007009, 0x424420⟩,
  ⟨1, 2, 0x800000031c02, 0x562001⟩,
  ⟨1, 2, 0x800000031c02, 0x562801⟩,
  ⟨1, 2, 0x800000031c02, 0x563001⟩,
  ⟨1, 2, 0x800000031c02, 0x569401⟩,
  ⟨1, 2, 0x800000031c02, 0x569c01⟩,
  ⟨1, 2, 0x800000031c02, 0x56a401⟩,
  ⟨1, 2, 0x800000031c02, 0x56d401⟩,
  ⟨1, 2, 0x800000031c02, 0x56dc01⟩,
  ⟨1, 2, 0x800000031c02, 0x56e401⟩,
  ⟨1, 2, 0x80000058c820428807, 0x0⟩,
  ⟨1, 2, 0x80000058dc20429807, 0x0⟩,
  ⟨1, 2, 0x800000031c02, 0x575001⟩,
  ⟨1, 2, 0x800000031c02, 0x575c01⟩,
  ⟨1, 2, 0x800000031c02, 0x576c01⟩,
  ⟨1, 2, 0x800000051402, 0x1242b⟩,
  ⟨1, 2, 0x800000051402, 0x12c2b⟩,
  ⟨1, 2, 0x80000004d802, 0x1306f⟩,
  ⟨1, 2, 0x800000031c02, 0x583c01⟩,
  ⟨1, 2, 0x800000031c02, 0x42e801⟩,
  ⟨1, 2, 0x800000031c02, 0x584c01⟩,
  ⟨1, 2, 0x800000031c02, 0x42f001⟩,
  ⟨1, 2, 0x800000031c02, 0x585401⟩,
  ⟨1, 2, 0x800000051402, 0x1582b⟩,
  ⟨23, 10, 0x540117800000, 0x0⟩,
  ⟨1, 2, 0x80000006587e, 0x0⟩,
  ⟨1, 2, 0x800000541013, 0x0⟩,
  ⟨1, 2, 0x800000350407, 0x0⟩,
  ⟨1, 2, 0x8000004f2407, 0x0⟩,
  ⟨1, 2, 0x8000008a2901, 0x0⟩,
  ⟨1, 2, 0x800000052825, 0x0⟩,
  ⟨1, 2, 0x800000065408, 0x0⟩,
  ⟨1, 2, 0x800000541c14, 0x0⟩,
  ⟨1, 2, 0x800000313007, 0x0⟩,
  ⟨1, 2, 0x8000004f3810, 0x0⟩,
  ⟨1, 2, 0x800000543036, 0x0⟩,
  ⟨1, 2, 0x20d1b1800000, 0x0⟩,
  ⟨1, 2, 0x80000085c0a2, 0x0⟩,
  ⟨1, 2, 0x80000006a408, 0x0⟩,
  ⟨1, 2, 0x8000004f6007, 0x0⟩,
  ⟨1, 2, 0x80000013c04a, 0x0⟩,
  ⟨1, 2, 0x8000004f685b, 0x0⟩,
  ⟨1, 2, 0x800000859409, 0x0⟩,
  ⟨1, 2, 0x800000053025, 0x0⟩,
  ⟨1, 2, 0x800000053425, 0x0⟩,
  ⟨1, 2, 0x800000053825, 0x0⟩,
  ⟨1, 2, 0x20d1b2800000, 0x0⟩,
  ⟨1, 2, 0x80000006b408, 0x0⟩]

/-- States 5376 to 5439. -/
def states5376 : List PackedRow := [
  ⟨24, 2, 0x210518800000, 0x0⟩,
  ⟨1, 2, 0x800000353407, 0x0⟩,
  ⟨1, 2, 0x800000456c07, 0x0⟩,
  ⟨1, 2, 0x800000541807, 0x0⟩,
  ⟨1, 2, 0x800000315407, 0x0⟩,
  ⟨1, 2, 0x800000549013, 0x0⟩,
  ⟨1, 2, 0x8000004fb808, 0x0⟩,
  ⟨1, 2, 0x8000004fbc07, 0x0⟩,
  ⟨1, 2, 0x800000464034, 0x0⟩,
  ⟨1, 2, 0x8000003b3007, 0x0⟩,
  ⟨1, 2, 0x800000316807, 0x0⟩,
  ⟨1, 2, 0x8000000f0c08, 0x0⟩,
  ⟨1, 2, 0x800000549c07, 0x0⟩,
  ⟨1, 2, 0x80000054a834, 0x0⟩,
  ⟨1, 2, 0x8000008a2ca2, 0x0⟩,
  ⟨1, 2, 0x800000465036, 0x0⟩,
  ⟨1, 2, 0x80000003b807, 0x0⟩,
  ⟨1, 2, 0x80000003bc07, 0x0⟩,
  ⟨1, 2, 0x80000006c408, 0x0⟩,
  ⟨1, 2, 0x800000046024, 0x0⟩,
  ⟨1, 2, 0x80000004b846, 0x0⟩,
  ⟨1, 2, 0x80000013d44a, 0x0⟩,
  ⟨1, 2, 0x54c026800000, 0x0⟩,
  ⟨1, 2, 0x2b5c80800000, 0x0⟩,
  ⟨1, 2, 0x80000043a00b, 0x0⟩,
  ⟨1, 2, 0x8000002d4007, 0x0⟩,
  ⟨1, 2, 0x2b2519800000, 0x0⟩,
  ⟨1, 2, 0x80000054d41d, 0x0⟩,
  ⟨1, 2, 0x8000000e3c25, 0x0⟩,
  ⟨1, 2, 0x8000008a3009, 0x0⟩,
  ⟨1, 2, 0x80000043ac34, 0x0⟩,
  ⟨1, 2, 0x80000027c807, 0x0⟩,
  ⟨1, 2, 0x80000054dc07, 0x0⟩,
  ⟨1, 2, 0x80000013d845, 0x0⟩,
  ⟨1, 2, 0x8000003b9434, 0x0⟩,
  ⟨1, 2, 0x80000021b055, 0x0⟩,
  ⟨1, 2, 0x80000031a407, 0x0⟩,
  ⟨1, 2, 0x8000008a34a2, 0x0⟩,
  ⟨1, 2, 0x8000003b9c07, 0x0⟩,
  ⟨1, 2, 0x8000008a38a2, 0x0⟩,
  ⟨1, 2, 0x54adaf800000, 0x0⟩,
  ⟨1, 2, 0x80000046a836, 0x0⟩,
  ⟨1, 2, 0x8000008a3ca2, 0x0⟩,
  ⟨1, 2, 0x80000046b002, 0x0⟩,
  ⟨1, 2, 0x8000008a40a2, 0x0⟩,
  ⟨1, 2, 0x800000002824, 0x0⟩,
  ⟨1, 2, 0x80000004e046, 0x0⟩,
  ⟨1, 2, 0x800000343c45, 0x0⟩,
  ⟨1, 2, 0x8000002a3803, 0x0⟩,
  ⟨1, 2, 0x80000043c00b, 0x0⟩,
  ⟨1, 2, 0x8000002b8845, 0x0⟩,
  ⟨1, 2, 0x8000000f3825, 0x0⟩,
  ⟨1, 2, 0x8000002ad407, 0x0⟩,
  ⟨1, 2, 0x8000002ae007, 0x0⟩,
  ⟨1, 2, 0x8000000e4025, 0x0⟩,
  ⟨1, 2, 0x8000000f4024, 0x0⟩,
  ⟨1, 2, 0x80000013e045, 0x0⟩,
  ⟨1, 2, 0xf2882800000, 0x0⟩,
  ⟨1, 2, 0x8000008a44a2, 0x0⟩,
  ⟨1, 2, 0x800000003024, 0x0⟩,
  ⟨1, 2, 0x8000000e104a, 0x0⟩,
  ⟨1, 2, 0x8000000e144a, 0x0⟩,
  ⟨1, 2, 0x80000000a44a, 0x0⟩,
  ⟨1, 2, 0x80000004e846, 0x0⟩]

/-- States 5440 to 5503. -/
def states5440 : List PackedRow := [
  ⟨1, 2, 0x800000344445, 0x0⟩,
  ⟨1, 2, 0x8000000f5825, 0x0⟩,
  ⟨1, 2, 0x8000000f5c25, 0x0⟩,
  ⟨1, 2, 0x8000008a48a2, 0x0⟩,
  ⟨1, 2, 0x800000474c4a, 0x0⟩,
  ⟨1, 2, 0x8000000e184a, 0x0⟩,
  ⟨1, 2, 0x80000000b04a, 0x0⟩,
  ⟨1, 2, 0x80000000b44a, 0x0⟩,
  ⟨1, 2, 0x80000051384a, 0x0⟩,
  ⟨1, 2, 0x8000000f6824, 0x0⟩,
  ⟨1, 2, 0x800000345c45, 0x0⟩,
  ⟨1, 2, 0x8000000f7025, 0x0⟩,
  ⟨1, 2, 0x8000000e204a, 0x0⟩,
  ⟨1, 2, 0x8000000e284a, 0x0⟩,
  ⟨1, 2, 0x8000000e2c4a, 0x0⟩,
  ⟨1, 2, 0x80000000bc4a, 0x0⟩,
  ⟨1, 2, 0x8000002a8045, 0x0⟩,
  ⟨1, 2, 0x8000002a8445, 0x0⟩,
  ⟨1, 2, 0x8000002a8845, 0x0⟩,
  ⟨1, 2, 0x8000002a8c45, 0x0⟩,
  ⟨1, 2, 0x8000002a9045, 0x0⟩,
  ⟨1, 2, 0x8000002a9445, 0x0⟩,
  ⟨1, 2, 0x8000002a9845, 0x0⟩,
  ⟨1, 2, 0x8000002a9c45, 0x0⟩,
  ⟨1, 2, 0x8000002aa045, 0x0⟩,
  ⟨1, 2, 0x8000002aa445, 0x0⟩,
  ⟨1, 2, 0x80000006e87e, 0x0⟩,
  ⟨1, 2, 0x800000056c25, 0x0⟩,
  ⟨1, 2, 0x80000007c808, 0x0⟩,
  ⟨1, 2, 0x18c9b1800000, 0x0⟩,
  ⟨1, 2, 0x8000000e304a, 0x0⟩,
  ⟨1, 2, 0x800000057025, 0x0⟩,
  ⟨1, 2, 0x800000057425, 0x0⟩,
  ⟨1, 2, 0x800000057825, 0x0⟩,
  ⟨1, 2, 0x18c9b2800000, 0x0⟩,
  ⟨1, 2, 0x800000072808, 0x0⟩,
  ⟨24, 2, 0x1c3918800000, 0x0⟩,
  ⟨1, 2, 0x800000347007, 0x0⟩,
  ⟨1, 2, 0x800000347407, 0x0⟩,
  ⟨1, 2, 0x8000000e344a, 0x0⟩,
  ⟨1, 2, 0x1e4880800000, 0x0⟩,
  ⟨1, 2, 0x8000001e5c07, 0x0⟩,
  ⟨1, 2, 0x1c4119800000, 0x0⟩,
  ⟨1, 2, 0x8000000e4425, 0x0⟩,
  ⟨1, 2, 0x800000136807, 0x0⟩,
  ⟨1, 2, 0x800000120845, 0x0⟩,
  ⟨1, 2, 0x80000040b834, 0x0⟩,
  ⟨1, 2, 0x800000196c55, 0x0⟩,
  ⟨1, 2, 0x8000001e9445, 0x0⟩,
  ⟨1, 2, 0x8000000f9c25, 0x0⟩,
  ⟨1, 2, 0x8000001ea007, 0x0⟩,
  ⟨1, 2, 0x8000001eac07, 0x0⟩,
  ⟨1, 2, 0x8000000e4825, 0x0⟩,
  ⟨1, 2, 0x800000121845, 0x0⟩,
  ⟨1, 2, 0xf9882800000, 0x0⟩,
  ⟨1, 2, 0x8000000fa425, 0x0⟩,
  ⟨1, 2, 0x8000000fa825, 0x0⟩,
  ⟨1, 2, 0x8000000fac25, 0x0⟩,
  ⟨1, 2, 0x80000012544a, 0x0⟩,
  ⟨24, 2, 0x251918800000, 0x0⟩,
  ⟨1, 2, 0x8000000bb807, 0x0⟩,
  ⟨1, 2, 0x8000000bbc07, 0x0⟩,
  ⟨1, 2, 0x80000012584a, 0x0⟩,
  ⟨1, 2, 0x2f8c80800000, 0x0⟩]

/-- States 5504 to 5567. -/
def states5504 : List PackedRow := [
  ⟨1, 2, 0x8000002fa007, 0x0⟩,
  ⟨1, 2, 0x2ee919800000, 0x0⟩,
  ⟨1, 2, 0x8000000e4c25, 0x0⟩,
  ⟨1, 2, 0x800000419055, 0x0⟩,
  ⟨1, 2, 0x8000002fc045, 0x0⟩,
  ⟨1, 2, 0x8000000fd825, 0x0⟩,
  ⟨1, 2, 0x8000002da807, 0x0⟩,
  ⟨1, 2, 0x8000002db407, 0x0⟩,
  ⟨1, 2, 0x8000000e5025, 0x0⟩,
  ⟨1, 2, 0xfd482800000, 0x0⟩,
  ⟨1, 2, 0x8000000fe025, 0x0⟩,
  ⟨1, 2, 0x8000000fe425, 0x0⟩,
  ⟨1, 2, 0x8000000fe825, 0x0⟩,
  ⟨1, 2, 0x8000002c0c45, 0x0⟩,
  ⟨1, 2, 0x8000002c1045, 0x0⟩,
  ⟨1, 2, 0x8000002c1445, 0x0⟩,
  ⟨1, 2, 0x8000002c1845, 0x0⟩,
  ⟨1, 2, 0x8000002c1c45, 0x0⟩,
  ⟨1, 2, 0x8000002c2045, 0x0⟩,
  ⟨1, 2, 0x8000002c2445, 0x0⟩,
  ⟨1, 2, 0x8000002c2845, 0x0⟩,
  ⟨1, 2, 0x8000002c2c45, 0x0⟩,
  ⟨1, 2, 0x8000002c3045, 0x0⟩,
  ⟨1, 2, 0x8000000bc04a, 0x0⟩,
  ⟨24, 2, 0x231918800000, 0x0⟩,
  ⟨1, 2, 0x80000019d407, 0x0⟩,
  ⟨1, 2, 0x80000019d807, 0x0⟩,
  ⟨1, 2, 0x8000000bc44a, 0x0⟩,
  ⟨1, 2, 0x179c80800000, 0x0⟩,
  ⟨1, 2, 0x80000017b007, 0x0⟩,
  ⟨1, 2, 0x168119800000, 0x0⟩,
  ⟨1, 2, 0x8000000e5425, 0x0⟩,
  ⟨1, 2, 0x80000041c855, 0x0⟩,
  ⟨1, 2, 0x80000017e445, 0x0⟩,
  ⟨1, 2, 0x800000100c25, 0x0⟩,
  ⟨1, 2, 0x80000017f007, 0x0⟩,
  ⟨1, 2, 0x80000017fc07, 0x0⟩,
  ⟨1, 2, 0x8000000e5825, 0x0⟩,
  ⟨1, 2, 0x10a482800000, 0x0⟩,
  ⟨1, 2, 0x800000101425, 0x0⟩,
  ⟨1, 2, 0x800000101825, 0x0⟩,
  ⟨1, 2, 0x800000101c25, 0x0⟩,
  ⟨24, 2, 0x271518800000, 0x0⟩,
  ⟨1, 2, 0x80000019e007, 0x0⟩,
  ⟨1, 2, 0x80000019e407, 0x0⟩,
  ⟨1, 2, 0x32c880800000, 0x0⟩,
  ⟨1, 2, 0x80000032d807, 0x0⟩,
  ⟨1, 2, 0x30e919800000, 0x0⟩,
  ⟨1, 2, 0x8000000e5c25, 0x0⟩,
  ⟨1, 2, 0x80000032f845, 0x0⟩,
  ⟨1, 2, 0x800000104025, 0x0⟩,
  ⟨1, 2, 0x80000041e007, 0x0⟩,
  ⟨1, 2, 0x80000041e407, 0x0⟩,
  ⟨1, 2, 0x8000000e6025, 0x0⟩,
  ⟨1, 2, 0x10ac82800000, 0x0⟩,
  ⟨1, 2, 0x800000104825, 0x0⟩,
  ⟨1, 2, 0x800000104c25, 0x0⟩,
  ⟨1, 2, 0x800000105025, 0x0⟩,
  ⟨1, 2, 0x8000002e1c45, 0x0⟩,
  ⟨1, 2, 0x8000002e2045, 0x0⟩,
  ⟨1, 2, 0x8000002e2445, 0x0⟩,
  ⟨1, 2, 0x8000002e2845, 0x0⟩,
  ⟨1, 2, 0x8000002e2c45, 0x0⟩,
  ⟨1, 2, 0x8000002e3045, 0x0⟩]

/-- States 5568 to 5631. -/
def states5568 : List PackedRow := [
  ⟨1, 2, 0x8000002e3445, 0x0⟩,
  ⟨1, 2, 0x8000002e3845, 0x0⟩,
  ⟨1, 2, 0x8000002e3c45, 0x0⟩,
  ⟨1, 2, 0x8000002e4045, 0x0⟩,
  ⟨1, 2, 0x80000037b807, 0x0⟩,
  ⟨1, 2, 0x80000037bc07, 0x0⟩,
  ⟨1, 2, 0x800000306407, 0x0⟩,
  ⟨1, 2, 0x800000306807, 0x0⟩,
  ⟨23, 10, 0x559117800000, 0x0⟩,
  ⟨1, 2, 0x80000037c807, 0x0⟩,
  ⟨1, 2, 0x800000518807, 0x0⟩,
  ⟨1, 2, 0x800000338007, 0x0⟩,
  ⟨1, 2, 0x800000519c07, 0x0⟩,
  ⟨1, 2, 0x800000339807, 0x0⟩,
  ⟨1, 2, 0x80000051c807, 0x0⟩,
  ⟨1, 2, 0x80000033a407, 0x0⟩,
  ⟨1, 2, 0x80000055cc1d, 0x0⟩,
  ⟨1, 2, 0x8000000e6825, 0x0⟩,
  ⟨1, 2, 0x80000033b807, 0x0⟩,
  ⟨1, 2, 0x800000108825, 0x0⟩,
  ⟨1, 2, 0x8000000e6c25, 0x0⟩,
  ⟨1, 2, 0x108482800000, 0x0⟩,
  ⟨1, 2, 0x80000000e44a, 0x0⟩,
  ⟨1, 2, 0x800000109025, 0x0⟩,
  ⟨1, 2, 0x800000109425, 0x0⟩,
  ⟨1, 2, 0x80000000f04a, 0x0⟩,
  ⟨1, 2, 0x80000000f44a, 0x0⟩,
  ⟨1, 2, 0x800000109825, 0x0⟩,
  ⟨1, 2, 0x80000000fc4a, 0x0⟩,
  ⟨1, 2, 0x80000007cc7e, 0x0⟩,
  ⟨1, 2, 0x80000005a825, 0x0⟩,
  ⟨1, 2, 0x80000006e408, 0x0⟩,
  ⟨1, 2, 0x80000005ac25, 0x0⟩,
  ⟨1, 2, 0x80000005b025, 0x0⟩,
  ⟨1, 2, 0x80000005b425, 0x0⟩,
  ⟨1, 2, 0x800000080408, 0x0⟩,
  ⟨23, 10, 0x55ed17800000, 0x0⟩,
  ⟨1, 2, 0x800000561c1d, 0x0⟩,
  ⟨1, 2, 0x80000008807e, 0x0⟩,
  ⟨1, 2, 0x80000005d825, 0x0⟩,
  ⟨1, 2, 0x80000005dc25, 0x0⟩,
  ⟨1, 2, 0x80000005e025, 0x0⟩,
  ⟨1, 2, 0x80000005e425, 0x0⟩,
  ⟨1, 2, 0x80000008b808, 0x0⟩,
  ⟨23, 10, 0x566117800000, 0x0⟩,
  ⟨1, 2, 0x80000056901d, 0x0⟩,
  ⟨1, 2, 0x80000008e07e, 0x0⟩,
  ⟨1, 2, 0x80000005f025, 0x0⟩,
  ⟨1, 2, 0x80000005f425, 0x0⟩,
  ⟨1, 2, 0x80000005f825, 0x0⟩,
  ⟨1, 2, 0x80000005fc25, 0x0⟩,
  ⟨1, 2, 0x800000091808, 0x0⟩,
  ⟨23, 10, 0x56a917800000, 0x0⟩,
  ⟨1, 2, 0x80000056d01d, 0x0⟩,
  ⟨1, 2, 0x80000009407e, 0x0⟩,
  ⟨1, 2, 0x800000060825, 0x0⟩,
  ⟨1, 2, 0x800000060c25, 0x0⟩,
  ⟨1, 2, 0x800000061025, 0x0⟩,
  ⟨1, 2, 0x800000061425, 0x0⟩,
  ⟨1, 2, 0x800000097808, 0x0⟩,
  ⟨1, 2, 0x800000571c1d, 0x0⟩,
  ⟨1, 2, 0x800000076c7e, 0x0⟩,
  ⟨1, 2, 0x800000573413, 0x0⟩,
  ⟨1, 2, 0x800000058c25, 0x0⟩]

end JsxDetect.Automaton
