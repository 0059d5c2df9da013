import JsxDetect.Automaton.Packed

/-!
# Parsing automaton: states 4096 to 4607

Packed rows; see `PackedRow` for the layout.
-/

namespace JsxDetect.Automaton

/-- States 4096 to 4159. -/
def states4096 : List PackedRow := [
  ⟨1, 5, 0x80000082a444, 0x0⟩,
  ⟨1, 5, 0x800000892044, 0x0⟩,
  ⟨1, 5, 0x80000080540d06a808, 0x4d0810⟩,
  ⟨1, 5, 0x80000080540d06a808, 0x4d0c10⟩,
  ⟨1, 5, 0x80000080540d06a808, 0x4d1010⟩,
  ⟨1, 5, 0x80000080540d06a808, 0x4d1410⟩,
  ⟨1, 5, 0x80000082a844, 0x0⟩,
  ⟨8, 2, 0x800000459c01032c02, 0x527c0030d801402402⟩,
  ⟨1, 5, 0x80000082a844, 0x0⟩,
  ⟨1, 5, 0x800000843444, 0x0⟩,
  ⟨1, 5, 0x80000081e844, 0x0⟩,
  ⟨1, 5, 0x800000847044, 0x0⟩,
  ⟨1, 5, 0x80000081e844, 0x0⟩,
  ⟨1, 5, 0x800000847444, 0x0⟩,
  ⟨1, 5, 0x800000847844, 0x0⟩,
  ⟨1, 6, 0x8000008290c7, 0x0⟩,
  ⟨1, 5, 0x800000825844, 0x0⟩,
  ⟨1, 5, 0x800000825844, 0x0⟩,
  ⟨1, 2, 0x800000808150, 0x0⟩,
  ⟨1, 2, 0x80000080ad50, 0x0⟩,
  ⟨1, 5, 0x800000848044, 0x0⟩,
  ⟨1, 5, 0x800000848444, 0x0⟩,
  ⟨1, 5, 0x800000848844, 0x0⟩,
  ⟨1, 5, 0x800000848c44, 0x0⟩,
  ⟨1, 5, 0x800000849044, 0x0⟩,
  ⟨15, 2, 0x800000856898, 0x0⟩,
  ⟨1, 6, 0x8000008448c7, 0x0⟩,
  ⟨1, 6, 0x800000844cc7, 0x0⟩,
  ⟨1, 6, 0x8000008450c7, 0x0⟩,
  ⟨1, 5, 0x800000825844, 0x0⟩,
  ⟨1, 5, 0x800000813844, 0x0⟩,
  ⟨1, 5, 0x800000813844, 0x0⟩,
  ⟨1, 5, 0x800000813844, 0x0⟩,
  ⟨1, 5, 0x800000813844, 0x0⟩,
  ⟨1, 5, 0x80000082b444, 0x0⟩,
  ⟨1, 2, 0x800000812550, 0x0⟩,
  ⟨1, 5, 0x800000849444, 0x0⟩,
  ⟨1, 5, 0x800000849844, 0x0⟩,
  ⟨1, 5, 0x800000849c44, 0x0⟩,
  ⟨1, 5, 0x800000825c44, 0x0⟩,
  ⟨1, 5, 0x800000825c44, 0x0⟩,
  ⟨1, 5, 0x800000825c44, 0x0⟩,
  ⟨1, 5, 0x80000084a044, 0x0⟩,
  ⟨1, 5, 0x800000832c44, 0x0⟩,
  ⟨1, 5, 0x800000832c44, 0x0⟩,
  ⟨1, 5, 0x80000084a444, 0x0⟩,
  ⟨15, 2, 0x800000857098, 0x0⟩,
  ⟨1, 5, 0x800000813844, 0x0⟩,
  ⟨1, 5, 0x800000813c44, 0x0⟩,
  ⟨1, 5, 0x800000813c44, 0x0⟩,
  ⟨1, 5, 0x800000813c44, 0x0⟩,
  ⟨1, 5, 0x80000080c044, 0x0⟩,
  ⟨1, 5, 0x80000080c044, 0x0⟩,
  ⟨1, 5, 0x80000080c044, 0x0⟩,
  ⟨1, 5, 0x800000833044, 0x0⟩,
  ⟨1, 5, 0x800000833044, 0x0⟩,
  ⟨1, 5, 0x80000084a844, 0x0⟩,
  ⟨1, 5, 0x800000826444, 0x0⟩,
  ⟨1, 5, 0x800000826444, 0x0⟩,
  ⟨1, 5, 0x800000826444, 0x0⟩,
  ⟨1, 5, 0x80000081f444, 0x0⟩,
  ⟨1, 5, 0x800000826844, 0x0⟩,
  ⟨1, 5, 0x800000826844, 0x0⟩,
  ⟨1, 5, 0x80000084ac44, 0x0⟩]

/-- States 4160 to 4223. -/
def states4160 : List PackedRow := [
  ⟨1, 5, 0x800000833444, 0x0⟩,
  ⟨1, 5, 0x800000833444, 0x0⟩,
  ⟨1, 5, 0x800000813c44, 0x0⟩,
  ⟨1, 5, 0x800000813c44, 0x0⟩,
  ⟨1, 5, 0x800000826844, 0x0⟩,
  ⟨1, 5, 0x80000080a844, 0x0⟩,
  ⟨1, 5, 0x80000080a844, 0x0⟩,
  ⟨1, 5, 0x80000080a844, 0x0⟩,
  ⟨1, 5, 0x800000833844, 0x0⟩,
  ⟨1, 5, 0x800000833844, 0x0⟩,
  ⟨1, 5, 0x80000084b444, 0x0⟩,
  ⟨1, 5, 0x80000081fc44, 0x0⟩,
  ⟨1, 5, 0x800000826c44, 0x0⟩,
  ⟨1, 5, 0x80000081b044, 0x0⟩,
  ⟨1, 5, 0x80000081b044, 0x0⟩,
  ⟨1, 5, 0x80000081b044, 0x0⟩,
  ⟨1, 5, 0x80000081b044, 0x0⟩,
  ⟨1, 5, 0x800000826c44, 0x0⟩,
  ⟨1, 5, 0x800000826c44, 0x0⟩,
  ⟨1, 5, 0x80000081ac44, 0x0⟩,
  ⟨1, 5, 0x80000084b844, 0x0⟩,
  ⟨1, 5, 0x800000833c44, 0x0⟩,
  ⟨1, 5, 0x800000833c44, 0x0⟩,
  ⟨1, 5, 0x800000834044, 0x0⟩,
  ⟨1, 5, 0x800000834044, 0x0⟩,
  ⟨1, 5, 0x80000084bc44, 0x0⟩,
  ⟨16, 2, 0x800000836091, 0x0⟩,
  ⟨16, 2, 0x800000836491, 0x0⟩,
  ⟨16, 2, 0x80000081c491, 0x0⟩,
  ⟨16, 2, 0x80000081c491, 0x0⟩,
  ⟨16, 2, 0x800000836c91, 0x0⟩,
  ⟨16, 2, 0x800000837091, 0x0⟩,
  ⟨16, 2, 0x80000080d891, 0x0⟩,
  ⟨16, 2, 0x80000080d891, 0x0⟩,
  ⟨16, 2, 0x80000080d891, 0x0⟩,
  ⟨16, 2, 0x80000080d891, 0x0⟩,
  ⟨16, 2, 0x80000081cc91, 0x0⟩,
  ⟨16, 2, 0x80000081cc91, 0x0⟩,
  ⟨16, 2, 0x80000081d091, 0x0⟩,
  ⟨16, 2, 0x80000081d091, 0x0⟩,
  ⟨15, 2, 0x800000836098, 0x0⟩,
  ⟨15, 2, 0x800000836498, 0x0⟩,
  ⟨15, 2, 0x80000081c498, 0x0⟩,
  ⟨15, 2, 0x80000081c498, 0x0⟩,
  ⟨15, 2, 0x800000836c98, 0x0⟩,
  ⟨15, 2, 0x800000837098, 0x0⟩,
  ⟨15, 2, 0x80000080d898, 0x0⟩,
  ⟨15, 2, 0x80000080d898, 0x0⟩,
  ⟨15, 2, 0x80000080d898, 0x0⟩,
  ⟨15, 2, 0x80000080d898, 0x0⟩,
  ⟨15, 2, 0x80000081cc98, 0x0⟩,
  ⟨15, 2, 0x80000081cc98, 0x0⟩,
  ⟨15, 2, 0x80000081d098, 0x0⟩,
  ⟨15, 2, 0x80000081d098, 0x0⟩,
  ⟨1, 5, 0x80000082ac44, 0x0⟩,
  ⟨1, 5, 0x80000082b044, 0x0⟩,
  ⟨8, 2, 0x80000080981d810dad, 0x0⟩,
  ⟨8, 2, 0x80000080981d810dad, 0x0⟩,
  ⟨14, 2, 0x80000055741d827d10, 0x0⟩,
  ⟨10, 2, 0x80000051b8ca190c554da007, 0x55bc3451bc15⟩,
  ⟨1, 2, 0x800000800c24408c3420d42a06c008, 0x45d821⟩,
  ⟨17, 8, 0x420ca10f10961e4c06800000, 0x420c4b⟩,
  ⟨1, 6, 0xcb4c90cb0578000000cb846005809, 0x229020⟩,
  ⟨2, 2, 0x43783c80000014a83b, 0x40b0664db478⟩]

/-- States 4224 to 4287. -/
def states4224 : List PackedRow := [
  ⟨1, 2, 0x8000008924250e3824, 0x4f304d⟩,
  ⟨1, 6, 0x40a0c9409c5780000040a446007009, 0x422420⟩,
  ⟨1, 5, 0x40d857112c3c8000000fcc150fc81240dc46, 0x0⟩,
  ⟨17, 8, 0x3be4a10f10961e9c06800000, 0x3be44b⟩,
  ⟨1, 6, 0xd18c90d14578000000d1c46005809, 0x22a420⟩,
  ⟨1, 2, 0x80000041003428c82a072008, 0x4dc86350c810⟩,
  ⟨1, 2, 0x8000008928250e3824, 0x4f304d⟩,
  ⟨1, 2, 0x800000892c250e3824, 0x4fac4d⟩,
  ⟨1, 6, 0x40e8c940e45780000040ec46007009, 0x423420⟩,
  ⟨1, 5, 0x40f05780000082b8e0, 0x0⟩,
  ⟨1, 5, 0x412057112c3c8000000fcc150fc812412446, 0x0⟩,
  ⟨8, 2, 0x800000459c01032c02, 0x527c0030d801377802⟩,
  ⟨1, 2, 0x8000008930250e3824, 0x4fac4d⟩,
  ⟨1, 5, 0x41285780000081f4e0, 0x0⟩,
  ⟨1, 5, 0x412c5780000082c0e0, 0x0⟩,
  ⟨8, 2, 0x800000459c01032c02, 0x527c0030d801378002⟩,
  ⟨1, 5, 0x415457112c3c8000000fcc150fc812415846, 0x0⟩,
  ⟨1, 5, 0x41505780000081fce0, 0x0⟩,
  ⟨8, 2, 0x800000459c01032c02, 0x527c0030d801378802⟩,
  ⟨8, 2, 0x800000459c01032c02, 0x527c0030d801379002⟩,
  ⟨8, 2, 0x800000459c01032c02, 0x527c0030d801379802⟩,
  ⟨8, 2, 0x800000459c01032c02, 0x527c0030d80137a002⟩,
  ⟨10, 2, 0x8000005284ca4178554df807, 0x560c34528815⟩,
  ⟨17, 8, 0x4264a10f10962f9006800000, 0x42644b⟩,
  ⟨1, 6, 0x40a0c9409c5780000040a446005809, 0x22e020⟩,
  ⟨17, 8, 0x3be4a10f10962fc806800000, 0x3be44b⟩,
  ⟨1, 6, 0x40e8c940e45780000040ec46005809, 0x22f820⟩,
  ⟨10, 2, 0x80000052c0ca41b0554e2c07, 0x56803452c415⟩,
  ⟨17, 8, 0x4274a10f109617a006800000, 0x42744b⟩,
  ⟨17, 8, 0x3be4a10f109617ec06800000, 0x3be44b⟩,
  ⟨17, 8, 0x427ca10f109632cc06800000, 0x427c4b⟩,
  ⟨17, 8, 0x3be4a10f1096330006800000, 0x3be44b⟩,
  ⟨8, 2, 0x800000459c01032802, 0x51780032700141f802⟩,
  ⟨1, 2, 0x541422455c0f800000310c13, 0x388005132c04⟩,
  ⟨8, 2, 0x800000459c01032802, 0x517800327001420402⟩,
  ⟨8, 2, 0x800000459c01031c02, 0x4eec0038600151dc02⟩,
  ⟨8, 2, 0x800000459c01032802, 0x517800327001421002⟩,
  ⟨8, 2, 0x800000459c01031c02, 0x4eec0038600151f402⟩,
  ⟨8, 2, 0x800000459c01032802, 0x517800327001422002⟩,
  ⟨8, 2, 0x800000459c01031c02, 0x4eec00386001521002⟩,
  ⟨8, 2, 0x800000459c01031c02, 0x4eec00386001521c02⟩,
  ⟨8, 2, 0x800000459c01031c02, 0x4eec00386001522002⟩,
  ⟨8, 2, 0x800000459c01031c02, 0x4eec00386001523802⟩,
  ⟨8, 2, 0x800000459c01031c02, 0x4eec00386001524c02⟩,
  ⟨8, 2, 0x800000459c01031c02, 0x4eec00386001525402⟩,
  ⟨8, 2, 0x800000459c01031c02, 0x4eec00386001526002⟩,
  ⟨8, 2, 0x800000459c01031c02, 0x4eec00386001526802⟩,
  ⟨8, 2, 0x800000459c01031c02, 0x4eec00386001527002⟩,
  ⟨8, 2, 0x800000459c01031c02, 0x4eec00386001527802⟩,
  ⟨8, 2, 0x800000459c01032802, 0x517800327001426002⟩,
  ⟨1, 2, 0x581c22455c0f800000311c13, 0x388005132c04⟩,
  ⟨8, 2, 0x800000459c01032802, 0x517800327001426802⟩,
  ⟨8, 2, 0x800000459c01031c02, 0x4eec00386001529c02⟩,
  ⟨8, 2, 0x800000459c01031c02, 0x4eec0038600152b802⟩,
  ⟨1, 2, 0x581c22455c0f800000573c13, 0x388005132c04⟩,
  ⟨1, 2, 0x8000008934250e3824, 0x4f304d⟩,
  ⟨8, 2, 0x800000459c01031c02, 0x4eec00386001533802⟩,
  ⟨1, 2, 0x8000008938250e3824, 0x4f304d⟩,
  ⟨1, 2, 0x800000893c250e3824, 0x4fac4d⟩,
  ⟨8, 2, 0x800000459c01031c02, 0x4eec00386001534002⟩,
  ⟨1, 2, 0x8000008940250e3824, 0x4fac4d⟩,
  ⟨18, 9, 0x800000431caf162c04, 0x431c51⟩,
  ⟨19, 9, 0x8000004320b0162c05, 0x432052⟩,
  ⟨20, 2, 0x80000020c116432d15, 0x432c7120c479⟩]

/-- States 4288 to 4351. -/
def states4288 : List PackedRow := [
  ⟨1, 5, 0x8000000c186845b0a2, 0x4f3460⟩,
  ⟨1, 5, 0x8000000c20684f445a, 0x4f486e⟩,
  ⟨1, 5, 0x8000000c24684f445a, 0x4f4c6e⟩,
  ⟨1, 2, 0x455c0f80000030a013, 0x388005132c04⟩,
  ⟨1, 5, 0x8000000c2c6835202a, 0x434c64⟩,
  ⟨1, 5, 0x8000000c306835202a, 0x435064⟩,
  ⟨1, 2, 0x80000031404503b02a06ac08, 0x460c3d⟩,
  ⟨18, 9, 0x800000435caf163004, 0x435c51⟩,
  ⟨19, 9, 0x8000004360b0163005, 0x436052⟩,
  ⟨1, 2, 0x385c06800000041002, 0x211813⟩,
  ⟨1, 5, 0x80000085546806642a, 0x437c36⟩,
  ⟨20, 2, 0x80000020c116463115, 0x463071212479⟩,
  ⟨1, 5, 0x8000000c746845b0a2, 0x4fb460⟩,
  ⟨1, 5, 0x8000000c78684f445a, 0x4fc46e⟩,
  ⟨1, 5, 0x8000000c7c684f445a, 0x4fc86e⟩,
  ⟨1, 5, 0xc80578000000c84464f445a, 0x4fd06e⟩,
  ⟨1, 2, 0x8000002f400953cc20, 0x54b074⟩,
  ⟨8, 2, 0x800000053025800c7a, 0x0⟩,
  ⟨8, 2, 0x800000053425800c7a, 0x0⟩,
  ⟨1, 5, 0x8000000c8c6835202a, 0x438864⟩,
  ⟨1, 5, 0x8000000c906835202a, 0x438864⟩,
  ⟨1, 2, 0x8000008580d6072008, 0x4ff810⟩,
  ⟨1, 2, 0x80000083fea889442a, 0x43582f⟩,
  ⟨18, 9, 0x800000894caf894804, 0x435c51⟩,
  ⟨19, 9, 0x8000008954b0895005, 0x436052⟩,
  ⟨1, 6, 0x80000027c4ae, 0x0⟩,
  ⟨1, 2, 0x80000005502a895951, 0x439083⟩,
  ⟨8, 2, 0x800000459c01031c02, 0x50080054cc01⟩,
  ⟨1, 2, 0x8000008420c80f0408, 0x502469⟩,
  ⟨1, 2, 0x8000003b8055540428352c07, 0x502862⟩,
  ⟨1, 2, 0x800000355c07, 0x43b09038e41657d415⟩,
  ⟨1, 5, 0x800000835868895c2a, 0x437c36⟩,
  ⟨1, 5, 0xce4578000000ce8464f445a, 0x50546e⟩,
  ⟨1, 2, 0x800000800c2484586706c008, 0x0⟩,
  ⟨1, 5, 0x80000085846889602a, 0x438864⟩,
  ⟨1, 2, 0x8000008588d6072008, 0x508c10⟩,
  ⟨1, 2, 0x80000005502a896551, 0x43bc83⟩,
  ⟨1, 2, 0x455c0f80000028d84d, 0x388005132c04⟩,
  ⟨8, 2, 0x80000010f401042002, 0x2b780f2ac829⟩,
  ⟨1, 2, 0xf203c8000000f1c150f18122b844a, 0x0⟩,
  ⟨8, 2, 0x800000459c01031c02, 0x50b800550801⟩,
  ⟨1, 2, 0x800000845cc80f0408, 0x50c069⟩,
  ⟨1, 2, 0x8000003bf855540428352c07, 0x502862⟩,
  ⟨17, 7, 0x800000896aa9, 0x0⟩,
  ⟨2, 2, 0x80000043dc2a84243b, 0x43e46d⟩,
  ⟨17, 7, 0x8971ae800000896cd2, 0x0⟩,
  ⟨1, 2, 0x8000000554d1074008, 0x510410⟩,
  ⟨1, 2, 0x80000089742a858d51, 0x43bc83⟩,
  ⟨8, 2, 0x800000459c01032c02, 0x51140035c401⟩,
  ⟨1, 2, 0x8000008050b7474034, 0x0⟩,
  ⟨1, 2, 0x113c3c0f602380000010c01510bc12, 0x0⟩,
  ⟨1, 2, 0x80000089782a855aaa, 0x43cc4f⟩,
  ⟨1, 2, 0xf203c8000000f1c150f18122bbc45, 0x0⟩,
  ⟨21, 2, 0x8000003c600443f152, 0x43f084⟩,
  ⟨22, 2, 0x8000003c600543f553, 0x43f485⟩,
  ⟨1, 2, 0x800000393007, 0x4744903c681657d415⟩,
  ⟨2, 2, 0x80000043dc2a85903b, 0x43f86d⟩,
  ⟨2, 2, 0x80000043dc2a85903b, 0x43f86d⟩,
  ⟨1, 2, 0xf203c8000000f1c150f1812344845, 0x0⟩,
  ⟨1, 2, 0xf203c8000000f1c150f1812344c45, 0x0⟩,
  ⟨21, 2, 0x8000003d1c04440d52, 0x440c84⟩,
  ⟨22, 2, 0x8000003d1c05441153, 0x441085⟩,
  ⟨2, 2, 0x800000897c2a83c83b, 0x43f86d⟩,
  ⟨1, 2, 0x800000846067072008, 0x50c810⟩]

/-- States 4352 to 4415. -/
def states4352 : List PackedRow := [
  ⟨1, 2, 0xf203c8000000f1c150f1812346045, 0x0⟩,
  ⟨1, 2, 0xf203c8000000f1c150f1812346445, 0x0⟩,
  ⟨1, 2, 0xf203c8000000f1c150f18120f7424, 0x0⟩,
  ⟨21, 2, 0x800000898404898152, 0x440c84⟩,
  ⟨22, 2, 0x800000898c05898953, 0x441085⟩,
  ⟨1, 2, 0xf203c8000000f1c150f1812899045, 0x0⟩,
  ⟨1, 2, 0xf203c8000000f1c150f1812346845, 0x0⟩,
  ⟨1, 2, 0xf203c8000000f1c150f1812346c45, 0x0⟩,
  ⟨20, 2, 0x80000018b916463115, 0x463071190879⟩,
  ⟨18, 9, 0x8000004440af2af404, 0x444051⟩,
  ⟨19, 9, 0x8000004444b02af405, 0x444452⟩,
  ⟨20, 2, 0x80000018b916442115, 0x44207118bc79⟩,
  ⟨1, 5, 0x80000040446845b0a2, 0x519460⟩,
  ⟨1, 5, 0x80000040506835202a, 0x445064⟩,
  ⟨1, 5, 0x80000040546835202a, 0x445464⟩,
  ⟨1, 2, 0x80000037584503b02a06ac08, 0x4d883d⟩,
  ⟨18, 9, 0x800000435caf2af804, 0x435c51⟩,
  ⟨19, 9, 0x8000004360b02af805, 0x436052⟩,
  ⟨1, 2, 0x39b406800000041c02, 0x18f813⟩,
  ⟨1, 5, 0x80000040846845b0a2, 0x51c460⟩,
  ⟨1, 5, 0x80000040906835202a, 0x438864⟩,
  ⟨1, 5, 0x80000040946835202a, 0x438864⟩,
  ⟨1, 2, 0x8000004d1c55540428352c07, 0x502862⟩,
  ⟨8, 2, 0x80000010b001041002, 0x1e7c0f1e7829⟩,
  ⟨1, 2, 0xf203c8000000f1c150f18121e904a, 0x0⟩,
  ⟨1, 2, 0x8000004d2055540428352c07, 0x502862⟩,
  ⟨1, 2, 0xf203c8000000f1c150f18121f1045, 0x0⟩,
  ⟨1, 2, 0xf203c8000000f1c150f18120fb024, 0x0⟩,
  ⟨18, 9, 0x8000004478af03f004, 0x447851⟩,
  ⟨19, 9, 0x800000447cb003f005, 0x447c52⟩,
  ⟨18, 9, 0x800000435caf03fc04, 0x435c51⟩,
  ⟨19, 9, 0x8000004360b003fc05, 0x436052⟩,
  ⟨8, 2, 0x80000010fc01042402, 0x2fb00f2d9c29⟩,
  ⟨1, 2, 0xf203c8000000f1c150f18122fbc4a, 0x0⟩,
  ⟨1, 2, 0xf203c8000000f1c150f18122ff445, 0x0⟩,
  ⟨1, 2, 0xf203c8000000f1c150f18120fec24, 0x0⟩,
  ⟨18, 9, 0x8000004498af166804, 0x449851⟩,
  ⟨19, 9, 0x800000449cb0166805, 0x449c52⟩,
  ⟨18, 9, 0x800000435caf166c04, 0x435c51⟩,
  ⟨19, 9, 0x8000004360b0166c05, 0x436052⟩,
  ⟨8, 2, 0x80000010ec01041c02, 0x17cc0f17c829⟩,
  ⟨1, 2, 0xf203c8000000f1c150f181217e04a, 0x0⟩,
  ⟨1, 2, 0xf203c8000000f1c150f1812185845, 0x0⟩,
  ⟨1, 2, 0xf203c8000000f1c150f1812102024, 0x0⟩,
  ⟨18, 9, 0x80000044b8af0a6804, 0x44b851⟩,
  ⟨19, 9, 0x80000044bcb00a6805, 0x44bc52⟩,
  ⟨18, 9, 0x800000435caf0a6c04, 0x435c51⟩,
  ⟨19, 9, 0x8000004360b00a6c05, 0x436052⟩,
  ⟨8, 2, 0x800000110801042c02, 0x32e80f303c29⟩,
  ⟨1, 2, 0xf203c8000000f1c150f181232f44a, 0x0⟩,
  ⟨1, 2, 0xf203c8000000f1c150f1812333445, 0x0⟩,
  ⟨1, 2, 0xf203c8000000f1c150f1812105424, 0x0⟩,
  ⟨18, 9, 0x80000044d8af2f0804, 0x44d851⟩,
  ⟨19, 9, 0x80000044dcb02f0805, 0x44dc52⟩,
  ⟨18, 9, 0x800000435caf2f1004, 0x435c51⟩,
  ⟨19, 9, 0x8000004360b02f1005, 0x436052⟩,
  ⟨18, 9, 0x80000044e8af336804, 0x44e851⟩,
  ⟨19, 9, 0x80000044ecb0336805, 0x44ec52⟩,
  ⟨18, 9, 0x800000435caf337004, 0x435c51⟩,
  ⟨19, 9, 0x8000004360b0337005, 0x436052⟩,
  ⟨1, 2, 0x455c0f80000030fc13, 0x388005132c04⟩,
  ⟨8, 2, 0x800000459c01031c02, 0x53300055c401⟩,
  ⟨8, 2, 0x80000010f401043002, 0x2b780f2ac829⟩,
  ⟨8, 2, 0x800000459c01031c02, 0x533c0055e001⟩]

/-- States 4416 to 4479. -/
def states4416 : List PackedRow := [
  ⟨1, 2, 0xf203c8000000f1c150f1812109c24, 0x0⟩,
  ⟨1, 2, 0x80000055941d80b85b004809, 0xdc820⟩,
  ⟨1, 2, 0x80000055981d80b85b004809, 0xdc820⟩,
  ⟨8, 2, 0x800000459c01031c02, 0x534800561401⟩,
  ⟨8, 2, 0x800000459c01031c02, 0x534c00562c01⟩,
  ⟨8, 2, 0x800000459c01031c02, 0x535400568801⟩,
  ⟨8, 2, 0x800000459c01031c02, 0x53580056a001⟩,
  ⟨8, 2, 0x800000459c01031c02, 0x53600056c801⟩,
  ⟨8, 2, 0x800000459c01031c02, 0x53640056e001⟩,
  ⟨8, 2, 0x800000459c01031c02, 0x537400574c01⟩,
  ⟨8, 2, 0x800000459c01031c02, 0x537800576001⟩,
  ⟨1, 2, 0x113c3c10e02380000010c01510bc12, 0x0⟩,
  ⟨1, 2, 0xf203c8000000f1c150f181210e824, 0x0⟩,
  ⟨1, 2, 0x113c3c10f02380000010c01510bc12, 0x0⟩,
  ⟨1, 2, 0x113c3c10f82380000010c01510bc12, 0x0⟩,
  ⟨1, 2, 0x113c3c11002380000010c01510bc12, 0x0⟩,
  ⟨8, 2, 0x800000459c01031c02, 0x539000583801⟩,
  ⟨8, 2, 0x800000459c01031c02, 0x539800585001⟩,
  ⟨1, 2, 0x113c3c11202380000010c01510bc12, 0x0⟩,
  ⟨1, 2, 0x113c3c11282380000010c01510bc12, 0x0⟩,
  ⟨1, 2, 0x8000004f0417038002, 0x8c6f⟩,
  ⟨1, 5, 0x8000000bf8684f0807, 0x0⟩,
  ⟨1, 5, 0x8000000bfc684f0c07, 0x0⟩,
  ⟨1, 2, 0x800000312c07, 0x133487312c86⟩,
  ⟨1, 2, 0x80000045b0a23ad036, 0x4f3460⟩,
  ⟨1, 2, 0x800000308c09456c07, 0x433050⟩,
  ⟨1, 2, 0x800000540c0c541807, 0xc1891⟩,
  ⟨8, 2, 0x800000459c010ee808, 0x542c00⟩,
  ⟨1, 2, 0x80000082414a45d008, 0x0⟩,
  ⟨1, 2, 0x80000031343420d42a, 0x45dc21⟩,
  ⟨1, 2, 0x80000020d83424ac2a, 0x45e01f⟩,
  ⟨1, 2, 0x80000020d83424ac2a, 0x45e41f⟩,
  ⟨1, 2, 0x80000031343420d42a, 0x45e821⟩,
  ⟨1, 2, 0x800000843930, 0x0⟩,
  ⟨1, 2, 0x80000045f44a03202a, 0x45f867⟩,
  ⟨1, 2, 0x80000031404503b02a, 0x460c3d⟩,
  ⟨1, 2, 0x80000020ec4504142a, 0x46082f⟩,
  ⟨1, 2, 0x80000020ec4504142a, 0x43582f⟩,
  ⟨1, 2, 0x80000031404503b02a, 0x46103d⟩,
  ⟨1, 2, 0x800000540428352c07, 0x45a462⟩,
  ⟨1, 2, 0xed86e800000859409, 0x547431⟩,
  ⟨1, 2, 0x8000003b185543742a, 0x462072⟩,
  ⟨1, 2, 0x800000841d4d, 0x0⟩,
  ⟨1, 2, 0x13d011800000053c0313cc07, 0x0⟩,
  ⟨1, 2, 0x800000442805442404, 0x463814⟩,
  ⟨1, 5, 0x800000899531, 0x0⟩,
  ⟨1, 2, 0x80000046403431642a, 0x464488⟩,
  ⟨1, 2, 0x8000008998673b2836, 0x0⟩,
  ⟨1, 2, 0x8000008242ab, 0x0⟩,
  ⟨1, 2, 0x80000082414a54a008, 0x0⟩,
  ⟨1, 2, 0x800000824067899c36, 0x0⟩,
  ⟨1, 2, 0x80000054a83430b02a, 0x465489⟩,
  ⟨1, 2, 0x54adaf800000465807, 0x465c15⟩,
  ⟨1, 2, 0x800000213c3424ac2a, 0x45e41f⟩,
  ⟨1, 2, 0x800000316c3420d42a, 0x45e821⟩,
  ⟨1, 2, 0x80000031703420d42a, 0x45e821⟩,
  ⟨1, 2, 0x80000021483424ac2a, 0x45e41f⟩,
  ⟨1, 2, 0x800000818c3489a02a, 0x45e41f⟩,
  ⟨1, 2, 0x80000084583489a42a, 0x45e821⟩,
  ⟨1, 5, 0x80000084540d, 0x0⟩,
  ⟨1, 2, 0x8000000548d106e408, 0x0⟩,
  ⟨1, 2, 0x800000843d30, 0x0⟩,
  ⟨1, 2, 0x80000046704a03242a, 0x467467⟩,
  ⟨1, 2, 0x80000038c802004809, 0xb7c20⟩]

/-- States 4480 to 4543. -/
def states4480 : List PackedRow := [
  ⟨1, 2, 0x80000083fd32, 0x0⟩,
  ⟨1, 2, 0x80000084649a06ac08, 0x0⟩,
  ⟨1, 2, 0x80000021604504142a, 0x43582f⟩,
  ⟨1, 2, 0x80000031844503b02a, 0x46103d⟩,
  ⟨1, 2, 0x80000084644589a82a, 0x46103d⟩,
  ⟨1, 5, 0x80000027c40d, 0x0⟩,
  ⟨8, 2, 0x800000827eac, 0x0⟩,
  ⟨1, 2, 0x800000500c1d042002, 0x2b2829⟩,
  ⟨1, 2, 0x8000003b805543a82a, 0x468872⟩,
  ⟨2, 2, 0x800000147c3b, 0xcc066⟩,
  ⟨1, 2, 0x8000001bcc4a04142a, 0x46942f⟩,
  ⟨1, 2, 0x8000001bcc4a04142a, 0x43582f⟩,
  ⟨20, 2, 0x80000089b11689ad15, 0x463071⟩,
  ⟨1, 2, 0x80000055941d21b0554f8824, 0x0⟩,
  ⟨1, 5, 0x80000089b5b0, 0x0⟩,
  ⟨1, 2, 0x80000089b8673b9836, 0x0⟩,
  ⟨1, 5, 0x80000089bd31, 0x0⟩,
  ⟨1, 2, 0x800000469c3431a82a, 0x46a088⟩,
  ⟨1, 2, 0x80000082406746a436, 0x0⟩,
  ⟨1, 2, 0x80000045c04c505807, 0x505857⟩,
  ⟨1, 2, 0x80000045c04c505c07, 0x505c57⟩,
  ⟨1, 2, 0x80000054e83430bc2a, 0x46ac89⟩,
  ⟨1, 5, 0x80000057101d0cf468, 0x0⟩,
  ⟨1, 5, 0x80000057141d0cf468, 0x0⟩,
  ⟨1, 2, 0x80000085986706ac08, 0x0⟩,
  ⟨1, 5, 0x800000859c0d, 0x0⟩,
  ⟨1, 5, 0x800000859c0d, 0x0⟩,
  ⟨1, 5, 0x80000085840d, 0x0⟩,
  ⟨1, 2, 0x800000844130, 0x0⟩,
  ⟨1, 2, 0x80000085a04a89c02a, 0x467467⟩,
  ⟨1, 5, 0x80000081dc0d, 0x0⟩,
  ⟨1, 2, 0x8000002b8c450de42a, 0x46e85e⟩,
  ⟨1, 2, 0xf203c8000000f1c150f1812, 0x0⟩,
  ⟨1, 2, 0x8000000f142a89c409, 0x43cc4f⟩,
  ⟨1, 2, 0x80000085a45589c82a, 0x468872⟩,
  ⟨2, 2, 0x800000147c3b, 0xd2c66⟩,
  ⟨1, 2, 0x8000000d343428b02a, 0x46f463⟩,
  ⟨1, 2, 0x8000001bf84a04142a, 0x43582f⟩,
  ⟨1, 2, 0x800000358c550e942a, 0x43cc4f⟩,
  ⟨1, 5, 0x80000089cd31, 0x0⟩,
  ⟨1, 2, 0x80000085a83489d02a, 0x46a088⟩,
  ⟨1, 2, 0x80000045c04c50e007, 0x50e057⟩,
  ⟨1, 2, 0x80000045c04c50e407, 0x50e457⟩,
  ⟨1, 2, 0x80000085ac3489d42a, 0x46ac89⟩,
  ⟨1, 2, 0x80000044b40544b004, 0x551014⟩,
  ⟨1, 5, 0x5088578000000554d1, 0x0⟩,
  ⟨1, 2, 0x800000844530, 0x0⟩,
  ⟨1, 2, 0x800000106024510c4a, 0x55201c⟩,
  ⟨1, 5, 0x800000808c0d, 0x0⟩,
  ⟨1, 5, 0x80000089d80d, 0x0⟩,
  ⟨1, 5, 0x800000808c0d, 0x0⟩,
  ⟨1, 5, 0x800000808c0d, 0x0⟩,
  ⟨1, 5, 0x800000808c0d, 0x0⟩,
  ⟨1, 2, 0x800000858ca5, 0x0⟩,
  ⟨1, 2, 0x2a4c118000002ba0032a4807, 0x0⟩,
  ⟨1, 2, 0x2a5c118000002ba4032a5807, 0x0⟩,
  ⟨1, 2, 0x2a6c118000002ba8032a6807, 0x0⟩,
  ⟨1, 2, 0x2a7c118000002bac032a7807, 0x0⟩,
  ⟨1, 2, 0x8000002bb4450de82a, 0x473c5e⟩,
  ⟨1, 2, 0x800000540428352c07, 0x502862⟩,
  ⟨1, 2, 0x8000000d703428b42a, 0x474863⟩,
  ⟨1, 2, 0x8000000d783428b82a, 0x474863⟩,
  ⟨1, 5, 0x80000089dd31, 0x0⟩,
  ⟨1, 5, 0x80000080280d, 0x0⟩]

/-- States 4544 to 4607. -/
def states4544 : List PackedRow := [
  ⟨1, 5, 0x80000080280d, 0x0⟩,
  ⟨1, 5, 0x80000080280d, 0x0⟩,
  ⟨1, 5, 0x80000085b00d, 0x0⟩,
  ⟨1, 5, 0x80000085b00d, 0x0⟩,
  ⟨1, 5, 0x80000080280d, 0x0⟩,
  ⟨1, 5, 0x80000080280d, 0x0⟩,
  ⟨1, 5, 0x80000080280d, 0x0⟩,
  ⟨1, 5, 0x80000080280d, 0x0⟩,
  ⟨1, 5, 0x80000080280d, 0x0⟩,
  ⟨1, 5, 0x80000080280d, 0x0⟩,
  ⟨1, 5, 0x80000080280d, 0x0⟩,
  ⟨1, 5, 0x80000080280d, 0x0⟩,
  ⟨1, 5, 0x80000080280d, 0x0⟩,
  ⟨1, 5, 0x80000080280d, 0x0⟩,
  ⟨1, 5, 0x80000080280d, 0x0⟩,
  ⟨1, 2, 0x80000085b44589e02a, 0x473c5e⟩,
  ⟨17, 8, 0x89e5ae800000, 0x0⟩,
  ⟨2, 2, 0x80000083c8d7, 0x0⟩,
  ⟨1, 2, 0x80000084603489e82a, 0x474863⟩,
  ⟨1, 5, 0x80000089edb0, 0x0⟩,
  ⟨1, 5, 0x80000080180d, 0x0⟩,
  ⟨1, 5, 0x80000080180d, 0x0⟩,
  ⟨1, 5, 0x80000080180d, 0x0⟩,
  ⟨1, 5, 0x80000080180d, 0x0⟩,
  ⟨1, 5, 0x80000085b80d, 0x0⟩,
  ⟨1, 5, 0x80000085b80d, 0x0⟩,
  ⟨1, 5, 0x80000080180d, 0x0⟩,
  ⟨1, 5, 0x80000080180d, 0x0⟩,
  ⟨1, 5, 0x80000080180d, 0x0⟩,
  ⟨1, 5, 0x80000080180d, 0x0⟩,
  ⟨1, 5, 0x80000080180d, 0x0⟩,
  ⟨1, 5, 0x80000080180d, 0x0⟩,
  ⟨1, 5, 0x80000080180d, 0x0⟩,
  ⟨1, 5, 0x80000080180d, 0x0⟩,
  ⟨1, 5, 0x80000080180d, 0x0⟩,
  ⟨1, 5, 0x80000080180d, 0x0⟩,
  ⟨1, 5, 0x80000080180d, 0x0⟩,
  ⟨1, 5, 0x80000080180d, 0x0⟩,
  ⟨1, 5, 0x80000080180d, 0x0⟩,
  ⟨1, 5, 0x80000080180d, 0x0⟩,
  ⟨1, 5, 0x80000080180d, 0x0⟩,
  ⟨1, 5, 0x80000080180d, 0x0⟩,
  ⟨1, 5, 0x80000080180d, 0x0⟩,
  ⟨1, 5, 0x80000080180d, 0x0⟩,
  ⟨1, 5, 0x80000080180d, 0x0⟩,
  ⟨1, 5, 0x80000080180d, 0x0⟩,
  ⟨1, 5, 0x80000080180d, 0x0⟩,
  ⟨1, 5, 0x80000080180d, 0x0⟩,
  ⟨1, 5, 0x80000080180d, 0x0⟩,
  ⟨1, 5, 0x80000080180d, 0x0⟩,
  ⟨1, 5, 0x80000080180d, 0x0⟩,
  ⟨1, 5, 0x80000080180d, 0x0⟩,
  ⟨1, 5, 0x80000080180d, 0x0⟩,
  ⟨1, 5, 0x80000080180d, 0x0⟩,
  ⟨1, 5, 0x80000080180d, 0x0⟩,
  ⟨1, 5, 0x80000080180d, 0x0⟩,
  ⟨1, 5, 0x80000080180d, 0x0⟩,
  ⟨1, 5, 0x80000080180d, 0x0⟩,
  ⟨1, 5, 0x80000080180d, 0x0⟩,
  ⟨1, 5, 0x80000080180d, 0x0⟩,
  ⟨1, 5, 0x80000080180d, 0x0⟩,
  ⟨1, 5, 0x80000080180d, 0x0⟩,
  ⟨1, 5, 0x80000080180d, 0x0⟩,
  ⟨1, 5, 0x80000080180d, 0x0⟩]

end JsxDetect.Automaton
