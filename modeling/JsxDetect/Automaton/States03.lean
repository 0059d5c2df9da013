import JsxDetect.Automaton.Packed

/-!
# Parsing automaton: states 1536 to 2047

Packed rows; see `PackedRow` for the layout.
-/

namespace JsxDetect.Automaton

/-- States 1536 to 1599. -/
def states1536 : List PackedRow := [
  ⟨12, 3, 0x80000081106a, 0x0⟩,
  ⟨12, 3, 0x11303c8000001008151004128110cd, 0x0⟩,
  ⟨12, 3, 0x80000080406a, 0x0⟩,
  ⟨12, 3, 0x80000080406a, 0x0⟩,
  ⟨12, 3, 0x80000080406a, 0x0⟩,
  ⟨12, 3, 0x80000080406a, 0x0⟩,
  ⟨12, 3, 0x80000082fc6a, 0x0⟩,
  ⟨12, 3, 0x800000100412822d81, 0x0⟩,
  ⟨12, 3, 0x80000083006a, 0x0⟩,
  ⟨12, 3, 0x800000824c6a, 0x0⟩,
  ⟨12, 3, 0x800000802c6a, 0x0⟩,
  ⟨12, 3, 0x800000802c6a, 0x0⟩,
  ⟨12, 3, 0x800000802c6a, 0x0⟩,
  ⟨12, 3, 0x800000802c6a, 0x0⟩,
  ⟨12, 3, 0x800000802c6a, 0x0⟩,
  ⟨12, 3, 0x800000802c6a, 0x0⟩,
  ⟨12, 3, 0x800000802c6a, 0x0⟩,
  ⟨12, 3, 0x800000802c6a, 0x0⟩,
  ⟨12, 3, 0x80000081546a, 0x0⟩,
  ⟨12, 3, 0x80000081546a, 0x0⟩,
  ⟨12, 3, 0x80000083046a, 0x0⟩,
  ⟨12, 3, 0x11303c8000001008151004128230cd, 0x0⟩,
  ⟨12, 3, 0x80000083086a, 0x0⟩,
  ⟨12, 3, 0x80000081146a, 0x0⟩,
  ⟨12, 3, 0x11303c8000001008151004128114cd, 0x0⟩,
  ⟨12, 3, 0x80000082506a, 0x0⟩,
  ⟨12, 3, 0x800000830c6a, 0x0⟩,
  ⟨12, 3, 0x80000081586a, 0x0⟩,
  ⟨12, 3, 0x80000081586a, 0x0⟩,
  ⟨12, 3, 0x80000082546a, 0x0⟩,
  ⟨12, 3, 0x80000083106a, 0x0⟩,
  ⟨12, 3, 0x11303c8000001008151004128234cd, 0x0⟩,
  ⟨12, 3, 0x80000081046a, 0x0⟩,
  ⟨12, 3, 0x11303c80000010081510041280f4cd, 0x0⟩,
  ⟨12, 3, 0x11303c80000010081510041280f4cd, 0x0⟩,
  ⟨12, 4, 0x19dc5780000080e858, 0x0⟩,
  ⟨12, 3, 0x80000007c808800458, 0x0⟩,
  ⟨12, 3, 0x77042105c3d39b40680000018b40a07184107143302780107102c070c1607081507043907001206fc3006f83f06f43e45a827518c1d05880310602406e83113c04a041c0211f42d06f02a10583606ec2e, 0x37503616540f54541c18b0134d6c12⟩,
  ⟨8, 5, 0x24dc4925b443220c262d542980000023800e44280544240407a403800c71816c34803c2a06c0082a0c202f4c8d, 0x45d82145d41f2920222d5411⟩,
  ⟨12, 3, 0x800000800458, 0x0⟩,
  ⟨12, 3, 0x80000081ec58, 0x0⟩,
  ⟨12, 3, 0x80000084f058, 0x0⟩,
  ⟨12, 3, 0x800000836058, 0x0⟩,
  ⟨12, 3, 0x800000815c58, 0x0⟩,
  ⟨12, 3, 0x80000080ec58, 0x0⟩,
  ⟨12, 3, 0x800000811c58, 0x0⟩,
  ⟨12, 3, 0x80000084f458, 0x0⟩,
  ⟨12, 3, 0x80000084f858, 0x0⟩,
  ⟨12, 3, 0x800000836458, 0x0⟩,
  ⟨12, 3, 0x800000806458, 0x0⟩,
  ⟨12, 3, 0x80000084fc58, 0x0⟩,
  ⟨12, 3, 0x800000812058, 0x0⟩,
  ⟨12, 3, 0x80000083f858, 0x0⟩,
  ⟨12, 3, 0x80000082c858, 0x0⟩,
  ⟨12, 3, 0x80000080fc58, 0x0⟩,
  ⟨12, 3, 0x80000080fc58, 0x0⟩,
  ⟨12, 3, 0x800000850058, 0x0⟩,
  ⟨12, 3, 0x800000834c58, 0x0⟩,
  ⟨12, 3, 0x80000081c458, 0x0⟩,
  ⟨12, 3, 0x80000081c458, 0x0⟩,
  ⟨12, 3, 0x800000850458, 0x0⟩,
  ⟨12, 3, 0x800000806458, 0x0⟩,
  ⟨12, 3, 0x800000836858, 0x0⟩,
  ⟨12, 3, 0x80583c800000807c9b800507, 0x0⟩]

/-- States 1600 to 1663. -/
def states1600 : List PackedRow := [
  ⟨12, 3, 0x80243c80000080749b800507, 0x0⟩,
  ⟨12, 3, 0x800000836858, 0x0⟩,
  ⟨12, 3, 0x800000850858, 0x0⟩,
  ⟨12, 3, 0x800000836c58, 0x0⟩,
  ⟨12, 3, 0x800000837058, 0x0⟩,
  ⟨12, 3, 0x800000806458, 0x0⟩,
  ⟨12, 3, 0x80000080fc58, 0x0⟩,
  ⟨12, 3, 0x800000827858, 0x0⟩,
  ⟨12, 3, 0x800000827858, 0x0⟩,
  ⟨12, 3, 0x80000080fc58, 0x0⟩,
  ⟨12, 3, 0x800000850c58, 0x0⟩,
  ⟨12, 3, 0x80000082cc58, 0x0⟩,
  ⟨12, 3, 0x800000807858, 0x0⟩,
  ⟨12, 3, 0x800000806858, 0x0⟩,
  ⟨12, 3, 0x80000081f058, 0x0⟩,
  ⟨12, 3, 0x800000806858, 0x0⟩,
  ⟨12, 3, 0x800000806858, 0x0⟩,
  ⟨12, 3, 0x800000851058, 0x0⟩,
  ⟨12, 3, 0x800000851458, 0x0⟩,
  ⟨12, 3, 0x800000851858, 0x0⟩,
  ⟨12, 3, 0x80000080d858, 0x0⟩,
  ⟨12, 3, 0x80000080d858, 0x0⟩,
  ⟨12, 3, 0x80000080d858, 0x0⟩,
  ⟨12, 3, 0x80000080d858, 0x0⟩,
  ⟨8, 5, 0x24dc4925b443220c262d542980000023800e44280544240407a403800c71817034803c2a06c0082a0c202f4c8d, 0x45d8214d701f2920222d5411⟩,
  ⟨12, 3, 0x80f83c80000081c89b815d07, 0x0⟩,
  ⟨12, 3, 0x800000851c58, 0x0⟩,
  ⟨12, 3, 0x80000081cc58, 0x0⟩,
  ⟨12, 3, 0x80000081cc58, 0x0⟩,
  ⟨12, 3, 0x800000807858, 0x0⟩,
  ⟨12, 3, 0x800000807858, 0x0⟩,
  ⟨12, 3, 0x800000807858, 0x0⟩,
  ⟨12, 3, 0x800000807858, 0x0⟩,
  ⟨12, 3, 0x80000081f058, 0x0⟩,
  ⟨12, 3, 0x800000807858, 0x0⟩,
  ⟨12, 3, 0x80000081f858, 0x0⟩,
  ⟨12, 3, 0x80000081d058, 0x0⟩,
  ⟨12, 3, 0x80000081d058, 0x0⟩,
  ⟨12, 3, 0x800000809c58, 0x0⟩,
  ⟨12, 3, 0x800000809c58, 0x0⟩,
  ⟨12, 3, 0x80000082bc58, 0x0⟩,
  ⟨12, 3, 0x80000081f858, 0x0⟩,
  ⟨12, 3, 0x800000809c58, 0x0⟩,
  ⟨12, 3, 0x800000809c58, 0x0⟩,
  ⟨12, 3, 0x80000082c458, 0x0⟩,
  ⟨12, 3, 0x800000824458, 0x0⟩,
  ⟨12, 3, 0x80000080ac0880d108, 0x0⟩,
  ⟨12, 3, 0x800000812408812108, 0x0⟩,
  ⟨12, 3, 0x80000080800880a508, 0x0⟩,
  ⟨8, 5, 0x24dc4925b443220c262d542980000023800e44280544240407a403800c71817434803c2a06c0082a0c202f4c8d, 0x45d8214d701f2920222d5411⟩,
  ⟨12, 3, 0x80000082ac58, 0x0⟩,
  ⟨12, 3, 0x80000082b058, 0x0⟩,
  ⟨12, 3, 0x80000080e858, 0x0⟩,
  ⟨12, 4, 0x800000809982, 0x0⟩,
  ⟨12, 4, 0x800000809982, 0x0⟩,
  ⟨12, 3, 0x800000820858, 0x0⟩,
  ⟨12, 3, 0x800000809858, 0x0⟩,
  ⟨12, 3, 0x800000809858, 0x0⟩,
  ⟨12, 3, 0x77042105c3d39b40680000018b40a07184107143302780107102c070c1607081507043907001206fc3006f83f06f43e45a827518c1d05880310602406e8310e304a041c0211f42d06f02a10583606ec2e, 0x37503616540f559c1c18b0134d6c12⟩,
  ⟨8, 5, 0x24dc4925b443220c262d542980000023800e44280544240407a403800c71817834803c2a06c0082a0c202f4c8d, 0x45d8214d701f2920222d5411⟩,
  ⟨12, 3, 0x77042105c3d39b40680000018b40a07184107143302780107102c070c1607081507043907001206fc3006f83f06f43e45a827518c1d05880310602406e83112544a041c0211f42d06f02a10583606ec2e, 0x37503616540f55f81c18b0134d6c12⟩,
  ⟨8, 5, 0x24dc4925b443220c262d542980000023800e44280544240407a403800c71817c34803c2a06c0082a0c202f4c8d, 0x45d8214d701f2920222d5411⟩,
  ⟨12, 3, 0x77042105c3d39b40680000018b40a07184107143302780107102c070c1607081507043907001206fc3006f83f06f43e45a827518c1d05880310602406e8310bc04a041c0211f42d06f02a10583606ec2e, 0x37503616540f566c1c18b0134d6c12⟩,
  ⟨12, 4, 0x65c420ee43d385c0680000020bc0a068c41068833026c0106842c068016067c15067839067412067030066c3f06683e45a8274f281d0524030658310c106804100213b82d06642a0ee03606602e, 0x4328361b8c0f20b81345ac12⟩]

/-- States 1664 to 1727. -/
def states1664 : List PackedRow := [
  ⟨12, 4, 0x385c0680000020bc0a87b40145a8274f281d052403041002818610, 0x1b8c0f20b81345ac12⟩,
  ⟨12, 4, 0xee43d385c0680000020bc0a87b80145a8274f281d05240304100213b82d0ee036818a11, 0x1b8c0f20b81345ac12⟩,
  ⟨12, 4, 0x65c420ee43d385c0680000020bc0a068c41068833026c0106842c068016067c15067839067412067030066c3f06683e45a8274f281d0524030658310c4c6804100213b82d06642a0ee03606602e, 0x4328361b8c0f20b81345ac12⟩,
  ⟨12, 4, 0x65c420ee43d385c0680000020bc0a068c41068833026c0106842c068016067c15067839067412067030066c3f06683e45a8274f281d0524030658310c506804100213b82d06642a0ee03606602e, 0x4328361b8c0f20b81345ac12⟩,
  ⟨12, 4, 0x65c420ee43d385c0680000020bc0a068c41068833026c0106842c068016067c15067839067412067030066c3f06683e45a8274f281d05240306583104100213b82d81b4b10ee03606602e, 0x1b8c0f20b81345ac12⟩,
  ⟨12, 4, 0x80000010b0013508274f281d05240304100284ea12, 0x1d800f21002945ac12⟩,
  ⟨12, 4, 0x385c0680000087bc0145a8274f281d052403041002811e13, 0x1b8c0f20b81345ac12⟩,
  ⟨12, 4, 0x65c420ee43d385c0680000020bc0a068c41068833026c0106842c068016067c15067839067412067030066c3f06683e45a8274f281d05240306583104100213b82d8064b10ee03606602e, 0x1b8c0f20b81345ac12⟩,
  ⟨12, 4, 0x65c420ee43d385c0680000020bc0a068c41068833026c0106842c068016067c15067839067412067030066c3f06683e45a8274f281d05240306583104100213b82d80a0b10ee03606602e, 0x1b8c0f20b81345ac12⟩,
  ⟨12, 3, 0x77042105c3d39b40680000018b40a07184107143302780107102c070c1607081507043907001206fc3006f83f06f43e45a827518c1d05880306e831041c0211f42d85221410583606ec2e, 0x16540f18b0134d6c12⟩,
  ⟨12, 4, 0x65c420ee43d385c0680000020bc0a068c41068833026c0106842c068016067c15067839067412067030066c3f06683e45a8274f281d05240306583104100213b82d81b8b10ee03606602e, 0x1b8c0f20b81345ac12⟩,
  ⟨12, 4, 0x80000082c8e5, 0x0⟩,
  ⟨11, 5, 0x24dc4924e8432168262c982980000021640e44280544240407a403006809800c732958202f4c8d, 0x28f8222c981127c020⟩,
  ⟨8, 5, 0x295c9e29602224dc491d7c56260c2626085931882980000044280544240407a403800c732f4d83, 0x296022282027318811⟩,
  ⟨12, 4, 0x65c420ee43d385c0680000020bc0a068c41068833026c0106842c068016067c15067839067412067030066c3f06683e45a8274f281d05240306583104100213b82d80a0b10ee03606602e, 0x1b8c0f20b81345ac12⟩,
  ⟨12, 4, 0x65c420ee43d385c0680000020bc0a068c41068833026c0106842c068016067c15067839067412067030066c3f06683e45a8274f281d05240306583104100213b82d8064b10ee03606602e, 0x1b8c0f20b81345ac12⟩,
  ⟨12, 4, 0x385c0680000020bc0a026c0106842c06801606703045a8274f281d05240304100280221506602e, 0x1b8c0f20b81345ac12⟩,
  ⟨12, 4, 0x385c0680000020bc0a83740106842c45a8274f281d052403041002802216, 0x1b8c0f20b81345ac12⟩,
  ⟨12, 4, 0x385c0680000020bc0a068833026c0106842c068016067c1506783906741206703045a8274f281d05240306583104100280221706602e, 0x1b8c0f20b81345ac12⟩,
  ⟨12, 4, 0x385c0680000020bc0a068833026c0106842c068016067c1506783906741206703006683e45a8274f281d05240306583104100280221806602e, 0x1b8c0f20b81345ac12⟩,
  ⟨12, 4, 0x385c0680000020bc0a83740106842c06801645a8274f281d05240304100280221906602e, 0x1b8c0f20b81345ac12⟩,
  ⟨12, 4, 0x385c0680000020bc0a068833026c0106842c06801606703045a8274f281d05240306583104100280221a06602e, 0x1b8c0f20b81345ac12⟩,
  ⟨12, 4, 0x385c0680000020bc0a068833026c0106842c06801606741206703045a8274f281d05240306583104100280221b06602e, 0x1b8c0f20b81345ac12⟩,
  ⟨12, 4, 0x385c0680000020bc0a068833026c0106842c06801606783906741206703045a8274f281d05240306583104100280221c06602e, 0x1b8c0f20b81345ac12⟩,
  ⟨12, 4, 0x385c0680000020bc0a83740106842c45a8274f281d05240304100280221d06602e, 0x1b8c0f20b81345ac12⟩,
  ⟨12, 4, 0xee43d385c0680000020bc0a83740106842c45a8274f281d05240304100213b82d0ee03680221e, 0x1b8c0f20b81345ac12⟩,
  ⟨12, 4, 0x385c0680000020bc0a026c0106842c06801606703045a8274f281d05240306583104100280221f06602e, 0x1b8c0f20b81345ac12⟩,
  ⟨12, 4, 0x385c0680000020bc0a068833026c0106842c068016067c15067839067412067030066c3f06683e45a8274f281d05240306583104100280222006602e, 0x1b8c0f20b81345ac12⟩,
  ⟨12, 4, 0x65c420ee43d385c0680000020bc0a068c41068833026c0106842c068016067c15067839067412067030066c3f06683e45a8274f281d05240306583104100213b82d8064b10ee03606602e, 0x1b8c0f20b81345ac12⟩,
  ⟨12, 4, 0x65c420ee43d385c0680000020bc0a068c41068833026c0106842c068016067c15067839067412067030066c3f06683e45a8274f281d05240306583104100213b82d81bcb10ee03606602e, 0x1b8c0f20b81345ac12⟩,
  ⟨12, 4, 0x65c420ee43d385c0680000020bc0a068c41068833026c0106842c068016067c15067839067412067030066c3f06683e45a8274f281d0524030658310c746804100213b82d82383483782a0ee03606602e, 0x1b8c0f20b81345ac12⟩,
  ⟨12, 4, 0x65c420ee43d385c0680000020bc0a068c41068833026c0106842c068016067c15067839067412067030066c3f06683e45a8274f281d05240306583180a06804100213b82d82383483782a0ee03606602e, 0x1b8c0f20b81345ac12⟩,
  ⟨12, 4, 0x65c420ee43d385c0680000020bc0a068c41068833026c0106842c068016067c15067839067412067030066c3f06683e45a8274f281d05240306583180a06804100213b82d82383483782a0ee03606602e, 0x1b8c0f20b81345ac12⟩,
  ⟨12, 4, 0x65c420ee43d385c0680000020bc0a068c41068833026c0106842c068016067c15067839067412067030066c3f06683e45a8274f281d05240306583180a06804100213b82d82383483782a0ee03606602e, 0x1b8c0f20b81345ac12⟩,
  ⟨8, 5, 0x29909e298c2224dc491d7c56263026262c5931b02980000044280544240407a403800c732f4d83, 0x29942228302731b011⟩,
  ⟨12, 4, 0x80000082cce5, 0x0⟩,
  ⟨12, 4, 0x65c420ee43d385c0680000020bc0a068c41068833026c0106842c068016067c15067839067412067030066c3f06683e45a8274f281d05240306583104100213b82d8068b10ee03606602e, 0x1b8c0f20b81345ac12⟩,
  ⟨12, 4, 0x65c420ee43d385c0680000020bc0a068c41068833026c0106842c068016067c15067839067412067030066c3f06683e45a8274f281d05240306583104100213b82d8068b10ee03606602e, 0x1b8c0f20b81345ac12⟩,
  ⟨12, 4, 0x65c420ee43d385c0680000020bc0a068c41068833026c0106842c068016067c15067839067412067030066c3f06683e45a8274f281d05240306583104100213b82d8068b10ee03606602e, 0x1b8c0f20b81345ac12⟩,
  ⟨12, 4, 0x65c420ee43d385c0680000020bc0a068c41068833026c0106842c068016067c15067839067412067030066c3f06683e45a8274f281d05240306583104100213b82d80ccb10ee03606602e, 0x1b8c0f20b81345ac12⟩,
  ⟨12, 4, 0x65c420ee43d385c0680000020bc0a068c41068833026c0106842c068016067c15067839067412067030066c3f06683e45a8274f281d05240306583104100213b82d80ccb10ee03606602e, 0x1b8c0f20b81345ac12⟩,
  ⟨8, 5, 0x28644339cc2980000044d40544d004069803800c71816c34803c2a06c0082a0c20388879, 0x45d82145d41f39cc11⟩,
  ⟨8, 5, 0x25b4432d542980000023800e442805442404054c03800c71816c34803c2a06c0082a0c202f4c78, 0x45d82145d41f2d5411⟩,
  ⟨12, 4, 0x65c420ee43d385c0680000020bc0a068c41068833026c0106842c068016067c15067839067412067030066c3f06683e45a8274f281d05240306583104100213b82d81c0b10ee03606602e, 0x1b8c0f20b81345ac12⟩,
  ⟨12, 4, 0x65c420ee43d385c0680000020bc0a068c41068833026c0106842c068016067c15067839067412067030066c3f06683e45a8274f281d05240306583140846804100213b82d8238670ee03606602e, 0x1b8c0f20b81345ac12⟩,
  ⟨12, 3, 0x800000837cc180ace680d0cb, 0x0⟩,
  ⟨12, 3, 0x8000008380c18124e68120cb, 0x0⟩,
  ⟨12, 4, 0x80000080e8e5, 0x0⟩,
  ⟨12, 4, 0x1acc5780000080e984, 0x0⟩,
  ⟨12, 3, 0x8000008384c18080e680a4cb, 0x0⟩,
  ⟨12, 3, 0x80583c800000807c9b06e40880056a, 0x0⟩,
  ⟨12, 4, 0x8000008208e5, 0x0⟩,
  ⟨12, 4, 0x80000010b00152281d04100280353f, 0x1e7c0f1e7829⟩,
  ⟨12, 4, 0x80000010b001522c1d04100280353f, 0x1e840f1e8029⟩,
  ⟨12, 4, 0x80000010b00152301d04100280353f, 0x1e8c0f1e8829⟩,
  ⟨8, 5, 0x28644339cc2980000044d40544d004069803800c71817034803c2a06c0082a0c20388879, 0x45d8214d701f39cc11⟩,
  ⟨8, 5, 0x25b4432d542980000023800e442805442404054c03800c71817034803c2a06c0082a0c202f4c78, 0x45d8214d701f2d5411⟩,
  ⟨12, 4, 0x80000082ace5, 0x0⟩,
  ⟨12, 4, 0x80000082b0e5, 0x0⟩,
  ⟨12, 4, 0x1abc57800000811984, 0x0⟩,
  ⟨12, 4, 0xfd08280000010b00155c81d802585, 0x1e500f⟩,
  ⟨12, 4, 0xa20420ee43d385c0680000020bc0a08584108543302840108502c084c16084815084439084012083c3008383f08343e45a8274f281d08298605240387c07e04100213b82d8388ad0ee03608302e, 0x1b8c0f20b81345ac12⟩,
  ⟨8, 5, 0x28644339cc2980000044d40544d004069803800c71817434803c2a06c0082a0c20388879, 0x45d8214d701f39cc11⟩,
  ⟨8, 5, 0x25b4432d542980000023800e442805442404054c03800c71817434803c2a06c0082a0c202f4c78, 0x45d8214d701f2d5411⟩]

/-- States 1728 to 1791. -/
def states1728 : List PackedRow := [
  ⟨8, 5, 0x28644339cc2980000044d40544d004069803800c71817834803c2a06c0082a0c20388879, 0x45d8214d701f39cc11⟩,
  ⟨8, 5, 0x25b4432d542980000023800e442805442404054c03800c71817834803c2a06c0082a0c202f4c78, 0x45d8214d701f2d5411⟩,
  ⟨8, 5, 0x28644339cc2980000044d40544d004069803800c71817c34803c2a06c0082a0c20388879, 0x45d8214d701f39cc11⟩,
  ⟨8, 5, 0x25b4432d542980000023800e442805442404054c03800c71817c34803c2a06c0082a0c202f4c78, 0x45d8214d701f2d5411⟩,
  ⟨12, 4, 0xa20420ee43d385c0680000020bc0a08584108543302840108502c084c16084815084439084012083c3008383f08343e45a8274f281d05240308283104100213b82d8064ad0ee03608302e, 0x1b8c0f20b81345ac12⟩,
  ⟨12, 4, 0xa20420ee43d385c0680000020bc0a08584108543302840108502c084c16084815084439084012083c3008383f08343e45a8274f281d05240308283104100213b82d80a0ad0ee03608302e, 0x1b8c0f20b81345ac12⟩,
  ⟨12, 4, 0xa20420ee43d385c0680000020bc0a08584108543302840108502c084c16084815084439084012083c3008383f08343e45a8274f281d05240308283104100213b82d81b8ad0ee03608302e, 0x1b8c0f20b81345ac12⟩,
  ⟨12, 4, 0xa20420ee43d385c0680000020bc0a08584108543302840108502c084c16084815084439084012083c3008383f08343e45a8274f281d05240308283104100213b82d80a0ad0ee03608302e, 0x1b8c0f20b81345ac12⟩,
  ⟨12, 4, 0xa20420ee43d385c0680000020bc0a08584108543302840108502c084c16084815084439084012083c3008383f08343e45a8274f281d05240308283104100213b82d8064ad0ee03608302e, 0x1b8c0f20b81345ac12⟩,
  ⟨12, 4, 0x385c0680000020bc0a02840108502c084c16083c3045a8274f281d05240304100280222108302e, 0x1b8c0f20b81345ac12⟩,
  ⟨12, 4, 0x385c0680000020bc0a838c0108502c45a8274f281d052403041002802222, 0x1b8c0f20b81345ac12⟩,
  ⟨12, 4, 0x385c0680000020bc0a08543302840108502c084c16084815084439084012083c3045a8274f281d05240308283104100280222308302e, 0x1b8c0f20b81345ac12⟩,
  ⟨12, 4, 0x385c0680000020bc0a08543302840108502c084c16084815084439084012083c3008343e45a8274f281d05240308283104100280222408302e, 0x1b8c0f20b81345ac12⟩,
  ⟨12, 4, 0x385c0680000020bc0a838c0108502c084c1645a8274f281d05240304100280222508302e, 0x1b8c0f20b81345ac12⟩,
  ⟨12, 4, 0x385c0680000020bc0a08543302840108502c084c16083c3045a8274f281d05240308283104100280222608302e, 0x1b8c0f20b81345ac12⟩,
  ⟨12, 4, 0x385c0680000020bc0a08543302840108502c084c16084012083c3045a8274f281d05240308283104100280222708302e, 0x1b8c0f20b81345ac12⟩,
  ⟨12, 4, 0x385c0680000020bc0a08543302840108502c084c16084439084012083c3045a8274f281d05240308283104100280222808302e, 0x1b8c0f20b81345ac12⟩,
  ⟨12, 4, 0x385c0680000020bc0a838c0108502c45a8274f281d05240304100280222908302e, 0x1b8c0f20b81345ac12⟩,
  ⟨12, 4, 0xee43d385c0680000020bc0a838c0108502c45a8274f281d05240304100213b82d0ee03680222a, 0x1b8c0f20b81345ac12⟩,
  ⟨12, 4, 0x385c0680000020bc0a02840108502c084c16083c3045a8274f281d05240308283104100280222b08302e, 0x1b8c0f20b81345ac12⟩,
  ⟨12, 4, 0x385c0680000020bc0a08543302840108502c084c16084815084439084012083c3008383f08343e45a8274f281d05240308283104100280222c08302e, 0x1b8c0f20b81345ac12⟩,
  ⟨12, 4, 0xa20420ee43d385c0680000020bc0a08584108543302840108502c084c16084815084439084012083c3008383f08343e45a8274f281d05240308283104100213b82d8064ad0ee03608302e, 0x1b8c0f20b81345ac12⟩,
  ⟨12, 4, 0xa20420ee43d385c0680000020bc0a08584108543302840108502c084c16084815084439084012083c3008383f08343e45a8274f281d05240308283104100213b82d81bcad0ee03608302e, 0x1b8c0f20b81345ac12⟩,
  ⟨12, 4, 0xa20420ee43d385c0680000020bc0a08584108543302840108502c084c16084815084439084012083c3008383f08343e45a8274f281d05240308283104100213b82d8068ad0ee03608302e, 0x1b8c0f20b81345ac12⟩,
  ⟨12, 4, 0xa20420ee43d385c0680000020bc0a08584108543302840108502c084c16084815084439084012083c3008383f08343e45a8274f281d05240308283104100213b82d8068ad0ee03608302e, 0x1b8c0f20b81345ac12⟩,
  ⟨12, 4, 0xa20420ee43d385c0680000020bc0a08584108543302840108502c084c16084815084439084012083c3008383f08343e45a8274f281d05240308283104100213b82d8068ad0ee03608302e, 0x1b8c0f20b81345ac12⟩,
  ⟨12, 4, 0xa20420ee43d385c0680000020bc0a08584108543302840108502c084c16084815084439084012083c3008383f08343e45a8274f281d05240308283104100213b82d80ccad0ee03608302e, 0x1b8c0f20b81345ac12⟩,
  ⟨12, 4, 0xa20420ee43d385c0680000020bc0a08584108543302840108502c084c16084815084439084012083c3008383f08343e45a8274f281d05240308283104100213b82d80ccad0ee03608302e, 0x1b8c0f20b81345ac12⟩,
  ⟨12, 4, 0xa20420ee43d385c0680000020bc0a08584108543302840108502c084c16084815084439084012083c3008383f08343e45a8274f281d05240308283104100213b82d81c0ad0ee03608302e, 0x1b8c0f20b81345ac12⟩,
  ⟨12, 4, 0x385c0680000020bc0a87c40145a8274f281d05240304100281862d, 0x1b8c0f20b81345ac12⟩,
  ⟨12, 4, 0xee43d385c0680000020bc0a87c80145a8274f281d05240304100213b82d0ee036818a2e, 0x1b8c0f20b81345ac12⟩,
  ⟨12, 4, 0xa20420ee43d385c0680000020bc0a08584108543302840108502c084c16084815084439084012083c3008383f08343e45a8274f281d05240308283104100213b82d81b4ad0ee03608302e, 0x1b8c0f20b81345ac12⟩,
  ⟨12, 4, 0x385c0680000087cc0145a8274f281d052403041002811e2f, 0x1b8c0f20b81345ac12⟩,
  ⟨12, 3, 0x803023800000805cc181400880044f, 0x0⟩,
  ⟨12, 3, 0x77042105c3d39b40680000018b40a07184107143302780107102c070c1607081507043907001206fc3006f83f06f43e45a827518c1d20ec4505880306e831041c0211f42d04142a10583606ec2e, 0x46082f16540f18b0134d6c12⟩,
  ⟨12, 4, 0x385c06800000041002834a30, 0x211813⟩,
  ⟨12, 4, 0x65c420ee43d385c0680000020bc0a068c41068833026c0106842c068016067c15067839067412067030066c3f06683e45a8274f281d0524030658310c746804100213b82d80a02a0ee03606602e, 0x1b8c0f20b81345ac12⟩,
  ⟨12, 3, 0x77042105c3d39b40680000018b40a07184107143302780107102c070c1607081507043907001206fc3006f83f06f43e45a827518c1d21444505880306e831041c0211f42d04142a10583606ec2e, 0x46082f16540f18b0134d6c12⟩,
  ⟨12, 3, 0x77042105c3d39b40680000018b40a07184107143302780107102c070c1607081507043907001206fc3006f83f06f43e45a827518c1d05880306e83104b846041c0211f42d06f02a10583606ec2e, 0x37503616540f18b0134d6c12⟩,
  ⟨12, 3, 0x77042105c3d39b40680000018b40a07184107143302780107102c070c1607081507043907001206fc3006f83f06f43e45a827518c1d05880306e831041c0211f42d83fd3210583606ec2e, 0x16540f18b0134d6c12⟩,
  ⟨12, 3, 0xa0042105c3d39b40680000018b40a09dc4109d83302900109d42c09d01609cc1509c83909c41209c03009bc3f09b83e45a827518c1d05880309b031041c0211f42d87d0a510583609b42e, 0x21700f18b0134d6c12⟩,
  ⟨12, 3, 0x77042105c3d39b40680000018b40a07184107143302780107102c070c1607081507043907001206fc3006f83f06f43e45a827518c1d05880306e831041c0211f42d43ac3406f02a10583606ec2e, 0x37503616540f18b0134d6c12⟩,
  ⟨12, 4, 0x800000820d40, 0x0⟩,
  ⟨12, 3, 0x77042105c3d39b40680000018b40a07184107143302780107102c070c1607081507043907001206fc3006f83f06f43e45a827518c1d05880306e8311bcc4a041c0211f42d04142a10583606ec2e, 0x46942f16540f18b0134d6c12⟩,
  ⟨12, 4, 0x65c420ee43d385c0680000020bc0a068c41068833026c0106842c068016067c15067839067412067030066c3f06683e45a8274f281d05240306583104100213b82d83580d0ee03606602e, 0x1b8c0f20b81345ac12⟩,
  ⟨12, 3, 0x77042105c3d39b40680000018b40a07184107143302780107102c070c1607081507043907001206fc3006f83f06f43e45a827518c1d13d84505880306e831041c0211f42d06f02a10583606ec2e, 0x37503616540f18b0134d6c12⟩,
  ⟨12, 3, 0x77042105c3d39b40680000018b40a07184107143302780107102c070c1607081507043907001206fc3006f83f06f43e45a827518c1d05880306e831041c0211f42d3b943406f02a10583606ec2e, 0x37503616540f18b0134d6c12⟩,
  ⟨12, 4, 0x65c420ee43d385c0680000020bc0a068c41068833026c0106842c068016067c15067839067412067030066c3f06683e45a8274f281d05240306583104100213b82d83880d0ee03606602e, 0x1b8c0f20b81345ac12⟩,
  ⟨12, 3, 0x77042105c3d39b40680000018b40a07184107143302780107102c070c1607081507043907001206fc3006f83f06f43e45a827518c1d05880306e83104e046041c0211f42d06f02a10583606ec2e, 0x37503616540f18b0134d6c12⟩,
  ⟨12, 3, 0x77042105c3d39b40680000018b40a07184107143302780107102c070c1607081507043907001206fc3006f83f06f43e45a827518c1d05880306e831041c0211f42d87d4db10583606ec2e, 0x16540f18b0134d6c12⟩,
  ⟨8, 5, 0x29809e297c2224dc4926282626245931ac2980000044280544240407a403800c732f4d25, 0x297c2231ac11⟩,
  ⟨12, 4, 0x800000821140, 0x0⟩,
  ⟨12, 4, 0x80c43c80000081449b80800880a4f8, 0x0⟩,
  ⟨8, 5, 0x39cc2980000044d40544d004069803800c71816c34803c2a06c008388847, 0x45d82145d41f39cc11⟩,
  ⟨12, 4, 0x80e43c80000081489b80ac0880d0f8, 0x0⟩,
  ⟨12, 3, 0x77042105c3d39b40680000018b40a07184107143302780107102c070c1607081507043907001206fc3006f83f06f43e45a827518c1d13e04505880306e831041c0211f42d06f02a10583606ec2e, 0x37503616540f18b0134d6c12⟩,
  ⟨12, 3, 0x77042105c3d39b40680000018b40a07184107143302780107102c070c1607081507043907001206fc3006f83f06f43e45a827518c1d05880300302406e831041c0211f42d06f02a10583606ec2e, 0x37503616540f18b0134d6c12⟩,
  ⟨12, 3, 0x77042105c3d39b40680000018b40a07184107143302780107102c070c1607081507043907001206fc3006f83f06f43e45a827518c1d05880306e8310e104a041c0211f42d06f02a10583606ec2e, 0x37503616540f18b0134d6c12⟩,
  ⟨12, 3, 0x77042105c3d39b40680000018b40a07184107143302780107102c070c1607081507043907001206fc3006f83f06f43e45a827518c1d05880306e8310e144a041c0211f42d06f02a10583606ec2e, 0x37503616540f18b0134d6c12⟩,
  ⟨12, 3, 0x77042105c3d39b40680000018b40a07184107143302780107102c070c1607081507043907001206fc3006f83f06f43e45a827518c1d05880306e83100a44a041c0211f42d06f02a10583606ec2e, 0x37503616540f18b0134d6c12⟩,
  ⟨12, 3, 0x77042105c3d39b40680000018b40a07184107143302780107102c070c1607081507043907001206fc3006f83f06f43e45a827518c1d05880306e83104e846041c0211f42d06f02a10583606ec2e, 0x37503616540f18b0134d6c12⟩,
  ⟨8, 5, 0x29d49e29d02224dc49264c2626485931e42980000044280544240407a403800c732f4d25, 0x29d82231e411⟩,
  ⟨12, 4, 0x800000821540, 0x0⟩,
  ⟨8, 5, 0x24dc4925b443220c262d542980000023800e44280544240407a403800c7181806706c0082a0c202f4c8d, 0x2920222d5411⟩]

/-- States 1792 to 1855. -/
def states1792 : List PackedRow := [
  ⟨12, 3, 0x77042105c3d39b40680000018b40a07184107143302780107102c070c1607081507043907001206fc3006f83f06f43e45a827518c1d05880306e8310e184a041c0211f42d06f02a10583606ec2e, 0x37503616540f18b0134d6c12⟩,
  ⟨12, 3, 0x77042105c3d39b40680000018b40a07184107143302780107102c070c1607081507043907001206fc3006f83f06f43e45a827518c1d05880306e83100b04a041c0211f42d06f02a10583606ec2e, 0x37503616540f18b0134d6c12⟩,
  ⟨12, 3, 0x77042105c3d39b40680000018b40a07184107143302780107102c070c1607081507043907001206fc3006f83f06f43e45a827518c1d05880306e83100b44a041c0211f42d06f02a10583606ec2e, 0x37503616540f18b0134d6c12⟩,
  ⟨12, 3, 0x77042105c3d39b40680000018b40a07184107143302780107102c070c1607081507043907001206fc3006f83f06f43e45a827518c1d05880306e8310e1c4a041c0211f42d06f02a10583606ec2e, 0x37503616540f18b0134d6c12⟩,
  ⟨12, 3, 0x77042105c3d39b40680000018b40a07184107143302780107102c070c1607081507043907001206fc3006f83f06f43e45a827518c1d05880306e8310e244a041c0211f42d06f02a10583606ec2e, 0x37503616540f18b0134d6c12⟩,
  ⟨12, 3, 0x77042105c3d39b40680000018b40a07184107143302780107102c070c1607081507043907001206fc3006f83f06f43e45a827518c1d05880306e8310e2c4a041c0211f42d06f02a10583606ec2e, 0x37503616540f18b0134d6c12⟩,
  ⟨12, 3, 0x77042105c3d39b40680000018b40a07184107143302780107102c070c1607081507043907001206fc3006f83f06f43e45a827518c1d05880306e83100bc4a041c0211f42d06f02a10583606ec2e, 0x37503616540f18b0134d6c12⟩,
  ⟨12, 3, 0x80000006e4088004f0, 0x0⟩,
  ⟨12, 3, 0x8000008030a382700880044f, 0x0⟩,
  ⟨12, 3, 0x8000008070a307c80880044f, 0x0⟩,
  ⟨12, 4, 0x800000806187, 0x0⟩,
  ⟨12, 4, 0x80000010b00155c81d802585, 0x1e500f⟩,
  ⟨12, 4, 0x80000010b001802631, 0x1e680f⟩,
  ⟨12, 4, 0x80000051e81d041002805232, 0x1e6c29⟩,
  ⟨13, 3, 0x194d0a8000008314f0, 0x0⟩,
  ⟨12, 3, 0x77042105c3d39b40680000018b40a07184107143302780107102c070c1607081507043907001206fc3006f83f06f43e45a827518c1d05880306e831041c0211f42d838a3310583606ec2e, 0x16540f18b0134d6c12⟩,
  ⟨12, 4, 0x80000082e187, 0x0⟩,
  ⟨8, 5, 0x39cc2980000044d40544d004069803800c71817034803c2a06c008388847, 0x45d8214d701f39cc11⟩,
  ⟨12, 4, 0xfd08280000080246b, 0x0⟩,
  ⟨12, 4, 0xfd48280000080246b, 0x0⟩,
  ⟨8, 5, 0x39cc2980000044d40544d004069803800c71817434803c2a06c008388847, 0x45d8214d701f39cc11⟩,
  ⟨12, 3, 0x80000080d58980ed88, 0x0⟩,
  ⟨12, 4, 0xfd08280000081046b, 0x0⟩,
  ⟨12, 3, 0x80000080958980ed88, 0x0⟩,
  ⟨12, 3, 0x80000080ad2680d04f, 0x0⟩,
  ⟨12, 3, 0x80000081252681204f, 0x0⟩,
  ⟨12, 3, 0x80000080812680a44f, 0x0⟩,
  ⟨12, 4, 0x800000807c8380596b814008800481, 0x0⟩,
  ⟨12, 3, 0x80000081449080c48a80800880a50b, 0x0⟩,
  ⟨12, 3, 0x80000081489080e48a80ac0880d10b, 0x0⟩,
  ⟨12, 4, 0x80000081448380c4c484006780800880a481, 0x0⟩,
  ⟨12, 4, 0x80000081488380e4c484046780ac0880d081, 0x0⟩,
  ⟨12, 3, 0x77042105c3d39b40680000018b40a07184107143302780107102c070c1607081507043907001206fc3006f83f06f43e45a827518c1d18d04505880306e831041c0211f42d04142a10583606ec2e, 0x4d842f16540f18b0134d6c12⟩,
  ⟨12, 3, 0x77042105c3d39b40680000018b40a07184107143302780107102c070c1607081507043907001206fc3006f83f06f43e45a827518c1d05880306e831165c4a041c0211f42d04142a10583606ec2e, 0x4dbc2f16540f18b0134d6c12⟩,
  ⟨12, 3, 0x77042105c3d39b40680000018b40a07184107143302780107102c070c1607081507043907001206fc3006f83f06f43e45a827518c1d12084505880306e831041c0211f42d06f02a10583606ec2e, 0x37503616540f18b0134d6c12⟩,
  ⟨12, 3, 0x77042105c3d39b40680000018b40a07184107143302780107102c070c1607081507043907001206fc3006f83f06f43e45a827518c1d05880306e831041c0211f42d40b83406f02a10583606ec2e, 0x37503616540f18b0134d6c12⟩,
  ⟨12, 3, 0x77042105c3d39b40680000018b40a07184107143302780107102c070c1607081507043907001206fc3006f83f06f43e45a827518c1d12184505880306e831041c0211f42d06f02a10583606ec2e, 0x37503616540f18b0134d6c12⟩,
  ⟨8, 5, 0x39cc2980000044d40544d004069803800c71817834803c2a06c008388847, 0x45d8214d701f39cc11⟩,
  ⟨12, 3, 0x77042105c3d39b40680000018b40a07184107143302780107102c070c1607081507043907001206fc3006f83f06f43e45a827518c1d05880306e8310e804a041c0211f42d04142a10583606ec2e, 0x4e042f16540f18b0134d6c12⟩,
  ⟨8, 5, 0x39cc2980000044d40544d004069803800c71817c34803c2a06c008388847, 0x45d8214d701f39cc11⟩,
  ⟨12, 3, 0x77042105c3d39b40680000018b40a07184107143302780107102c070c1607081507043907001206fc3006f83f06f43e45a827518c1d05880306e8312dcc4a041c0211f42d04142a10583606ec2e, 0x4e382f16540f18b0134d6c12⟩,
  ⟨12, 3, 0x77042105c3d39b40680000018b40a07184107143302780107102c070c1607081507043907001206fc3006f83f06f43e45a827518c1d05880306e83126784a041c0211f42d04142a10583606ec2e, 0x4e582f16540f18b0134d6c12⟩,
  ⟨12, 3, 0x77042105c3d39b40680000018b40a07184107143302780107102c070c1607081507043907001206fc3006f83f06f43e45a827518c1d05880306e83130384a041c0211f42d04142a10583606ec2e, 0x4e7c2f16540f18b0134d6c12⟩,
  ⟨12, 3, 0x77042105c3d39b40680000018b40a07184107143302780107102c070c1607081507043907001206fc3006f83f06f43e45a827518c1d05880306e83134884a041c0211f42d04142a10583606ec2e, 0x4e8c2f16540f18b0134d6c12⟩,
  ⟨12, 3, 0x77042105c3d39b40680000018b40a07184107143302780107102c070c1607081507043907001206fc3006f83f06f43e45a827518c1d05880306e83100e44a041c0211f42d06f02a10583606ec2e, 0x37503616540f18b0134d6c12⟩,
  ⟨12, 3, 0x77042105c3d39b40680000018b40a07184107143302780107102c070c1607081507043907001206fc3006f83f06f43e45a827518c1d05880306e83100f04a041c0211f42d06f02a10583606ec2e, 0x37503616540f18b0134d6c12⟩,
  ⟨12, 3, 0x77042105c3d39b40680000018b40a07184107143302780107102c070c1607081507043907001206fc3006f83f06f43e45a827518c1d05880306e83100f44a041c0211f42d06f02a10583606ec2e, 0x37503616540f18b0134d6c12⟩,
  ⟨12, 3, 0x77042105c3d39b40680000018b40a07184107143302780107102c070c1607081507043907001206fc3006f83f06f43e45a827518c1d05880306e83100fc4a041c0211f42d06f02a10583606ec2e, 0x37503616540f18b0134d6c12⟩,
  ⟨12, 3, 0x77042105c3d39b40680000018b40a07184107143302780107102c070c1607081507043907001206fc3006f83f06f43e45a827518c1d05880306e83104f046041c0211f42d06f02a10583606ec2e, 0x37503616540f18b0134d6c12⟩,
  ⟨12, 3, 0x77042105c3d39b40680000018b40a07184107143302780107102c070c1607081507043907001206fc3006f83f06f43e45a827518c1d05880306e83104f846041c0211f42d06f02a10583606ec2e, 0x37503616540f18b0134d6c12⟩,
  ⟨12, 3, 0xa0042105c3d39b40680000018b40a09dc4109d83302900109d42c09d01609cc1509c83909c41209c03009bc3f09b83e45a827518c1d05880309b031041c0211f42d8064a510583609b42e, 0x16540f18b0134d6c12⟩,
  ⟨12, 3, 0xa0042105c3d39b40680000018b40a09dc4109d83302900109d42c09d01609cc1509c83909c41209c03009bc3f09b83e45a827518c1d05880309b031041c0211f42d80a0a510583609b42e, 0x16540f18b0134d6c12⟩,
  ⟨12, 3, 0xa0042105c3d39b40680000018b40a09dc4109d83302900109d42c09d01609cc1509c83909c41209c03009bc3f09b83e45a827518c1d05880309b031041c0211f42d81b8a510583609b42e, 0x16540f18b0134d6c12⟩,
  ⟨12, 3, 0xa0042105c3d39b40680000018b40a09dc4109d83302900109d42c09d01609cc1509c83909c41209c03009bc3f09b83e45a827518c1d05880309b031041c0211f42d80a0a510583609b42e, 0x16540f18b0134d6c12⟩,
  ⟨12, 3, 0xa0042105c3d39b40680000018b40a09dc4109d83302900109d42c09d01609cc1509c83909c41209c03009bc3f09b83e45a827518c1d05880309b031041c0211f42d8064a510583609b42e, 0x16540f18b0134d6c12⟩,
  ⟨12, 3, 0x39b40680000018b40a02900109d42c09d01609c03045a827518c1d058803041c0280223409b42e, 0x16540f18b0134d6c12⟩,
  ⟨12, 3, 0x39b40680000018b40a83900109d42c45a827518c1d058803041c02802235, 0x16540f18b0134d6c12⟩,
  ⟨12, 3, 0x39b40680000018b40a09d83302900109d42c09d01609cc1509c83909c41209c03045a827518c1d05880309b031041c0280223609b42e, 0x16540f18b0134d6c12⟩,
  ⟨12, 3, 0x39b40680000018b40a09d83302900109d42c09d01609cc1509c83909c41209c03009b83e45a827518c1d05880309b031041c0280223709b42e, 0x16540f18b0134d6c12⟩,
  ⟨12, 3, 0x39b40680000018b40a83900109d42c09d01645a827518c1d058803041c0280223809b42e, 0x16540f18b0134d6c12⟩,
  ⟨12, 3, 0x39b40680000018b40a09d83302900109d42c09d01609c03045a827518c1d05880309b031041c0280223909b42e, 0x16540f18b0134d6c12⟩,
  ⟨12, 3, 0x39b40680000018b40a09d83302900109d42c09d01609c41209c03045a827518c1d05880309b031041c0280223a09b42e, 0x16540f18b0134d6c12⟩,
  ⟨12, 3, 0x39b40680000018b40a09d83302900109d42c09d01609c83909c41209c03045a827518c1d05880309b031041c0280223b09b42e, 0x16540f18b0134d6c12⟩,
  ⟨12, 3, 0x39b40680000018b40a83900109d42c45a827518c1d058803041c0280223c09b42e, 0x16540f18b0134d6c12⟩]

/-- States 1856 to 1919. -/
def states1856 : List PackedRow := [
  ⟨12, 3, 0x105c3d39b40680000018b40a83900109d42c45a827518c1d058803041c0211f42d10583680223d, 0x16540f18b0134d6c12⟩,
  ⟨12, 3, 0x39b40680000018b40a02900109d42c09d01609c03045a827518c1d05880309b031041c0280223e09b42e, 0x16540f18b0134d6c12⟩,
  ⟨12, 3, 0x39b40680000018b40a09d83302900109d42c09d01609cc1509c83909c41209c03009bc3f09b83e45a827518c1d05880309b031041c0280223f09b42e, 0x16540f18b0134d6c12⟩,
  ⟨12, 3, 0xa0042105c3d39b40680000018b40a09dc4109d83302900109d42c09d01609cc1509c83909c41209c03009bc3f09b83e45a827518c1d05880309b031041c0211f42d8064a510583609b42e, 0x16540f18b0134d6c12⟩,
  ⟨12, 3, 0xa0042105c3d39b40680000018b40a09dc4109d83302900109d42c09d01609cc1509c83909c41209c03009bc3f09b83e45a827518c1d05880309b031041c0211f42d81bca510583609b42e, 0x16540f18b0134d6c12⟩,
  ⟨12, 3, 0xa0042105c3d39b40680000018b40a09dc4109d83302900109d42c09d01609cc1509c83909c41209c03009bc3f09b83e45a827518c1d05880309b031041c0211f42d8068a510583609b42e, 0x16540f18b0134d6c12⟩,
  ⟨12, 3, 0xa0042105c3d39b40680000018b40a09dc4109d83302900109d42c09d01609cc1509c83909c41209c03009bc3f09b83e45a827518c1d05880309b031041c0211f42d8068a510583609b42e, 0x16540f18b0134d6c12⟩,
  ⟨12, 3, 0xa0042105c3d39b40680000018b40a09dc4109d83302900109d42c09d01609cc1509c83909c41209c03009bc3f09b83e45a827518c1d05880309b031041c0211f42d8068a510583609b42e, 0x16540f18b0134d6c12⟩,
  ⟨12, 3, 0xa0042105c3d39b40680000018b40a09dc4109d83302900109d42c09d01609cc1509c83909c41209c03009bc3f09b83e45a827518c1d05880309b031041c0211f42d80cca510583609b42e, 0x16540f18b0134d6c12⟩,
  ⟨12, 3, 0xa0042105c3d39b40680000018b40a09dc4109d83302900109d42c09d01609cc1509c83909c41209c03009bc3f09b83e45a827518c1d05880309b031041c0211f42d80cca510583609b42e, 0x16540f18b0134d6c12⟩,
  ⟨12, 3, 0xa0042105c3d39b40680000018b40a09dc4109d83302900109d42c09d01609cc1509c83909c41209c03009bc3f09b83e45a827518c1d05880309b031041c0211f42d81c0a510583609b42e, 0x16540f18b0134d6c12⟩,
  ⟨12, 3, 0x77042105c3d39b40680000018b40a07184107143302780107102c070c1607081507043907001206fc3006f83f06f43e45a827518c1d05880306e831013c4a041c0211f42d06f02a10583606ec2e, 0x37503616540f18b0134d6c12⟩,
  ⟨12, 3, 0x77042105c3d39b40680000018b40a07184107143302780107102c070c1607081507043907001206fc3006f83f06f43e45a827518c1d05880306e83101484a041c0211f42d06f02a10583606ec2e, 0x37503616540f18b0134d6c12⟩,
  ⟨12, 3, 0x77042105c3d39b40680000018b40a07184107143302780107102c070c1607081507043907001206fc3006f83f06f43e45a827518c1d05880306e831014c4a041c0211f42d06f02a10583606ec2e, 0x37503616540f18b0134d6c12⟩,
  ⟨12, 3, 0x77042105c3d39b40680000018b40a07184107143302780107102c070c1607081507043907001206fc3006f83f06f43e45a827518c1d05880306e83101544a041c0211f42d06f02a10583606ec2e, 0x37503616540f18b0134d6c12⟩,
  ⟨12, 3, 0x77042105c3d39b40680000018b40a07184107143302780107102c070c1607081507043907001206fc3006f83f06f43e45a827518c1d05880306e831050046041c0211f42d06f02a10583606ec2e, 0x37503616540f18b0134d6c12⟩,
  ⟨12, 3, 0x77042105c3d39b40680000018b40a07184107143302780107102c070c1607081507043907001206fc3006f83f06f43e45a827518c1d05880306e831050846041c0211f42d06f02a10583606ec2e, 0x37503616540f18b0134d6c12⟩,
  ⟨12, 3, 0x77042105c3d39b40680000018b40a07184107143302780107102c070c1607081507043907001206fc3006f83f06f43e45a827518c1d05880306e83104cc46041c0211f42d06f02a10583606ec2e, 0x37503616540f18b0134d6c12⟩,
  ⟨12, 3, 0x39b40680000018b40a87d80145a827518c1d058803041c02818640, 0x16540f18b0134d6c12⟩,
  ⟨12, 3, 0x105c3d39b40680000018b40a87dc0145a827518c1d058803041c0211f42d105836818a41, 0x16540f18b0134d6c12⟩,
  ⟨12, 3, 0xa0042105c3d39b40680000018b40a09dc4109d83302900109d42c09d01609cc1509c83909c41209c03009bc3f09b83e45a827518c1d05880309b031041c0211f42d81b4a510583609b42e, 0x16540f18b0134d6c12⟩,
  ⟨12, 3, 0x39b40680000087e00145a827518c1d058803041c02811e42, 0x16540f18b0134d6c12⟩,
  ⟨12, 3, 0x77042105c3d39b40680000018b40a07184107143302780107102c070c1607081507043907001206fc3006f83f06f43e45a827518c1d05880306e83104d446041c0211f42d06f02a10583606ec2e, 0x37503616540f18b0134d6c12⟩,
  ⟨12, 4, 0x8000003508274f281d05240381ee43, 0x45ac12⟩,
  ⟨1, 2, 0x544c29800000064c4e44b40544b00403880335183420d42a1fa0093aec47, 0x4d5021544c114d443e544806⟩,
  ⟨12, 4, 0x80000080ac0880d05c, 0x0⟩,
  ⟨12, 4, 0xa18420ee43d385c0680000020bc0a079c41079833027c0107942c079016078c15078839078412078030077c3f07783e45a8274f281d052403076c310c706804100213b82d0ee03607742e, 0x1b8c0f20b81345ac12⟩,
  ⟨12, 4, 0x80000081240881205c, 0x0⟩,
  ⟨12, 4, 0x80000080800880a45c, 0x0⟩,
  ⟨8, 2, 0x28e84928144327ec26388c2980000027e80e44d40544d004069803800c6c1d6c3416502a06c00829482038888d, 0x45d82145d41f28ec22388c11⟩,
  ⟨8, 5, 0x295c2224e8432c982980000021640e442805442404054c03800c732958202f4c78, 0x2c9811⟩,
  ⟨8, 5, 0x800000800d2780918a, 0x0⟩,
  ⟨12, 4, 0x800000041002834e44, 0x219429⟩,
  ⟨12, 4, 0x80243c80000083545c, 0x0⟩,
  ⟨12, 4, 0x11243c8000000f90150f8c128354ce, 0x0⟩,
  ⟨12, 4, 0x80583c800000807c9b8004f8, 0x0⟩,
  ⟨12, 4, 0x80243c80000080749b8004f8, 0x0⟩,
  ⟨12, 4, 0x80583c800000807c9b06540880056c, 0x0⟩,
  ⟨12, 4, 0x11243c8000000f90150f8c1284ecce, 0x0⟩,
  ⟨12, 3, 0x77042105c3d39b40680000018b40a07184107143302780107102c070c1607081507043907001206fc3006f83f06f43e45a827518c1d05880306e831041c0211f42d87e46710583606ec2e, 0x16540f18b0134d6c12⟩,
  ⟨8, 5, 0x24dc4924f04321e4262cb02980000021e00e44280544240407a403800c732978202f4c8d, 0x290c222cb011⟩,
  ⟨8, 5, 0x29802224f0432cb02980000021e00e44280544240407a403800c732978202f4c78, 0x2cb011⟩,
  ⟨8, 5, 0x24dc4924d84321e8262cb82980000022740e44280544240407a403800c732a24202f4c8d, 0x2914222cb811⟩,
  ⟨8, 5, 0x29882224d8432cbc2980000022740e44280544240407a403800c732a24202f4c78, 0x2cbc11⟩,
  ⟨8, 5, 0x24dc4924f84321f4262d482980000021f00e44280544240407a403800c8c29a0202f4c8d, 0x291c222d4811⟩,
  ⟨12, 3, 0x80243c80000080748387e84a831928800481, 0x0⟩,
  ⟨12, 3, 0x800000807c8380592480313d827008800481, 0x0⟩,
  ⟨12, 4, 0x80000046d827509c1d80349c800645, 0x0⟩,
  ⟨12, 4, 0x800000814c9c8004f8, 0x0⟩,
  ⟨12, 4, 0x80f83c80000081c89b815cf8, 0x0⟩,
  ⟨12, 4, 0x80d43c80000080ec5c, 0x0⟩,
  ⟨12, 4, 0xa18420d38570ee43d385c0680000020bc0a079c41079833027c0107942c079016078c15078839078412078030077c3f07783e45a8274f281d052403076c310d3c4604100213b82d0ee03607742e, 0x1b8c0f20b81345ac12⟩,
  ⟨12, 3, 0x77042105c3d39b40680000018b40a07184107143302780107102c070c1607081507043907001206fc3006f83f06f43e45a827518c1d05880306e831041c0211f42d82386710583606ec2e, 0x16540f18b0134d6c12⟩,
  ⟨12, 3, 0x77042105c3d39b40680000018b40a07184107143302780107102c070c1607081507043907001206fc3006f83f06f43e45a827518c1d05880306e831041c0211f42d82386710583606ec2e, 0x16540f18b0134d6c12⟩,
  ⟨8, 5, 0x24dc4924e4432238262cd42980000022840e44280544240407a403800c732a28202f4c8d, 0x2924222cd411⟩,
  ⟨8, 5, 0x29cc2224e4432cd82980000022840e44280544240407a403800c732a28202f4c78, 0x2cd811⟩,
  ⟨8, 5, 0x24dc492504432244262d602980000022400e44280544240407a403800c8c29dc202f4c8d, 0x2928222d6011⟩,
  ⟨12, 3, 0x80243c80000080748387ec4a831d28800481, 0x0⟩,
  ⟨8, 5, 0x28644339cc2980000044d40544d004069803800c7181806706c0082a0c20388879, 0x39cc11⟩,
  ⟨8, 5, 0x25b4432d542980000023800e442805442404054c03800c7181806706c0082a0c202f4c78, 0x2d5411⟩,
  ⟨8, 5, 0x24dc4925cc432248262d6c2980000023840e44280544240407a403800c8c2a10202f4c8d, 0x292c222d6c11⟩,
  ⟨12, 4, 0x80943c80000080ec5c, 0x0⟩,
  ⟨12, 4, 0xa18420ee43d385c0680000020bc0a079c41079833027c0107942c079016078c15078839078412078030077c3f07783e45a8274f281d052403076c3140846804100213b82d0ee03607742e, 0x1b8c0f20b81345ac12⟩,
  ⟨12, 4, 0xb10578000008118b280800880a4b8, 0x0⟩]

/-- States 1920 to 1983. -/
def states1920 : List PackedRow := [
  ⟨8, 2, 0x28e84928144327ec26388c2980000027e80e44d40544d004069803800c6c1ab83416502a06c00829482038888d, 0x45d8214d701f28ec22388c11⟩,
  ⟨12, 4, 0x80000082e46b, 0x0⟩,
  ⟨12, 4, 0x80000080246b, 0x0⟩,
  ⟨12, 4, 0x80000080586b, 0x0⟩,
  ⟨12, 4, 0x80000080246b, 0x0⟩,
  ⟨12, 4, 0x80000051ec1d80510c, 0x0⟩,
  ⟨12, 4, 0x80000080506b, 0x0⟩,
  ⟨12, 4, 0x8000000e980380518b, 0x0⟩,
  ⟨12, 4, 0x80000080586b, 0x0⟩,
  ⟨12, 4, 0x80000080c46b, 0x0⟩,
  ⟨12, 4, 0x80000052281d80350c, 0x0⟩,
  ⟨12, 4, 0x80000052341d80350c, 0x0⟩,
  ⟨12, 4, 0x80000080346b, 0x0⟩,
  ⟨12, 3, 0x80243c80000080748387f04a8524f68318e6800481, 0x0⟩,
  ⟨12, 3, 0x803023800000807c83805924805cf6814008800481, 0x0⟩,
  ⟨12, 4, 0x80000080e46b, 0x0⟩,
  ⟨12, 4, 0x80000082e86b, 0x0⟩,
  ⟨12, 4, 0x8000000f8c1282218c, 0x0⟩,
  ⟨12, 4, 0x800000814c6b, 0x0⟩,
  ⟨12, 4, 0x80000080f86b, 0x0⟩,
  ⟨12, 4, 0x80000081086b, 0x0⟩,
  ⟨12, 4, 0x11243c8000000f90150f8c128224ce, 0x0⟩,
  ⟨12, 4, 0x8000008050b70e980382ee46, 0x0⟩,
  ⟨12, 4, 0xfa03c80000082285c, 0x0⟩,
  ⟨12, 4, 0x8000000e980382f18b, 0x0⟩,
  ⟨12, 4, 0x80000080d46b, 0x0⟩,
  ⟨12, 4, 0x80000081086b, 0x0⟩,
  ⟨12, 4, 0x80000080d46b, 0x0⟩,
  ⟨12, 4, 0x80000082186b, 0x0⟩,
  ⟨12, 4, 0x80000082486b, 0x0⟩,
  ⟨12, 4, 0x80000080946b, 0x0⟩,
  ⟨12, 4, 0x80000080b06b, 0x0⟩,
  ⟨12, 4, 0x80000080946b, 0x0⟩,
  ⟨12, 4, 0x80000080b06b, 0x0⟩,
  ⟨12, 4, 0x80000080946b, 0x0⟩,
  ⟨12, 4, 0x80000080b06b, 0x0⟩,
  ⟨12, 4, 0x80000082f46b, 0x0⟩,
  ⟨12, 4, 0x80000081506b, 0x0⟩,
  ⟨12, 4, 0x80000081506b, 0x0⟩,
  ⟨12, 4, 0x80000082f86b, 0x0⟩,
  ⟨12, 4, 0x800000835c1d810d0c, 0x0⟩,
  ⟨12, 4, 0x80000080406b, 0x0⟩,
  ⟨12, 4, 0x80000080406b, 0x0⟩,
  ⟨12, 4, 0x800000835c1d810d0c, 0x0⟩,
  ⟨12, 4, 0x80000081106b, 0x0⟩,
  ⟨12, 4, 0x11243c8000000f90150f8c128110ce, 0x0⟩,
  ⟨12, 4, 0x80000080406b, 0x0⟩,
  ⟨12, 4, 0x80000080406b, 0x0⟩,
  ⟨12, 4, 0x80000080406b, 0x0⟩,
  ⟨12, 4, 0x80000080406b, 0x0⟩,
  ⟨12, 4, 0x80000082fc6b, 0x0⟩,
  ⟨12, 4, 0x8000000f8c12822d8c, 0x0⟩,
  ⟨12, 4, 0x80000083006b, 0x0⟩,
  ⟨12, 4, 0x80000080f06b, 0x0⟩,
  ⟨12, 4, 0x80000080f06b, 0x0⟩,
  ⟨12, 4, 0x800000824c6b, 0x0⟩,
  ⟨12, 4, 0x800000802c6b, 0x0⟩,
  ⟨12, 4, 0x800000802c6b, 0x0⟩,
  ⟨12, 4, 0x800000802c6b, 0x0⟩,
  ⟨12, 4, 0x800000802c6b, 0x0⟩,
  ⟨12, 4, 0x800000802c6b, 0x0⟩,
  ⟨12, 4, 0x800000802c6b, 0x0⟩,
  ⟨12, 4, 0x800000802c6b, 0x0⟩,
  ⟨12, 4, 0x800000802c6b, 0x0⟩]

/-- States 1984 to 2047. -/
def states1984 : List PackedRow := [
  ⟨12, 4, 0x80000081546b, 0x0⟩,
  ⟨12, 4, 0x80000081546b, 0x0⟩,
  ⟨12, 4, 0x80000083046b, 0x0⟩,
  ⟨12, 4, 0x11243c8000000f90150f8c128230ce, 0x0⟩,
  ⟨12, 4, 0x80000083086b, 0x0⟩,
  ⟨12, 4, 0x80000081146b, 0x0⟩,
  ⟨12, 4, 0x11243c8000000f90150f8c128114ce, 0x0⟩,
  ⟨12, 4, 0x800000821c6b, 0x0⟩,
  ⟨12, 4, 0x80000082506b, 0x0⟩,
  ⟨12, 4, 0x800000830c6b, 0x0⟩,
  ⟨12, 4, 0x80000081586b, 0x0⟩,
  ⟨12, 4, 0x80000081586b, 0x0⟩,
  ⟨12, 4, 0x80000082546b, 0x0⟩,
  ⟨12, 4, 0x80000083106b, 0x0⟩,
  ⟨12, 4, 0x11243c8000000f90150f8c128234ce, 0x0⟩,
  ⟨12, 4, 0x1abc57800000808008811a47, 0x0⟩,
  ⟨8, 2, 0x28e84928144327ec26388c2980000027e80e44d40544d004069803800c6c19bc3416502a06c00829482038888d, 0x45d8214d701f28ec22388c11⟩,
  ⟨12, 3, 0x80000080749080248a80050b, 0x0⟩,
  ⟨12, 3, 0x80c43c80000081448387f44a80812880a481, 0x0⟩,
  ⟨12, 3, 0x80e43c80000081488387f84a80ad2880d081, 0x0⟩,
  ⟨12, 4, 0x80000081046b, 0x0⟩,
  ⟨12, 4, 0x11243c8000000f90150f8c1280f4ce, 0x0⟩,
  ⟨12, 4, 0x11243c8000000f90150f8c1280f4ce, 0x0⟩,
  ⟨8, 2, 0x28e84928144327ec26388c2980000027e80e44d40544d004069803800c6c1c643416502a06c00829482038888d, 0x45d8214d701f28ec22388c11⟩,
  ⟨12, 3, 0x800000807c9080588a80050b, 0x0⟩,
  ⟨12, 4, 0x8000004e0c2752a81d80350280058d, 0x0⟩,
  ⟨12, 4, 0x800000814d02800481, 0x0⟩,
  ⟨12, 3, 0x80000081c89080f88a815d0b, 0x0⟩,
  ⟨8, 2, 0x28e84928144327ec26388c2980000027e80e44d40544d004069803800c6c25303416502a06c00829482038888d, 0x45d8214d701f28ec22388c11⟩,
  ⟨12, 3, 0x80c43c80000081448384004a8384f68080e680a481, 0x0⟩,
  ⟨12, 3, 0x80e43c80000081488384044a837cf680ace680d081, 0x0⟩,
  ⟨12, 4, 0x80000080d4c480ed8e, 0x0⟩,
  ⟨12, 4, 0x8000008094c480ed8e, 0x0⟩,
  ⟨8, 2, 0x28e84928144327ec26388c2980000027e80e44d40544d004069803800c6c26683416502a06c00829482038888d, 0x45d8214d701f28ec22388c11⟩,
  ⟨12, 3, 0x80c4e480000081448384009a80810d80a481, 0x0⟩,
  ⟨12, 3, 0x80e4e480000081488384049a80ad0d80d081, 0x0⟩,
  ⟨12, 4, 0x8000008058c4807d41800481, 0x0⟩,
  ⟨12, 4, 0x80000080f8c481c941815c81, 0x0⟩,
  ⟨12, 4, 0x8000008024c4807541800481, 0x0⟩,
  ⟨12, 4, 0x80000007c80880045c, 0x0⟩,
  ⟨1, 2, 0x544c29800000064c4e44b40544b00403880340483420d42a1fa00941f047, 0x458021544c1145743e544806⟩,
  ⟨12, 4, 0xa18420ee43d385c0680000020bc0a079c41079833027c0107942c079016078c15078839078412078030077c3f07783e45a8274f281d052403076c3140806804100213b82d0ee03607742e, 0x1b8c0f20b81345ac12⟩,
  ⟨12, 4, 0xa18420ee43d385c0680000020bc0a079c41079833027c0107942c079016078c15078839078412078030077c3f07783e45a8274f281d052403076c3180646804100213b82d0ee03607742e, 0x1b8c0f20b81345ac12⟩,
  ⟨12, 4, 0xa18420ee43d385c0680000020bc0a079c41079833027c0107942c079016078c15078839078412078030077c3f07783e45a8274f281d052403076c3180a06804100213b82d0ee03607742e, 0x1b8c0f20b81345ac12⟩,
  ⟨12, 4, 0xa18420ee43d385c0680000020bc0a079c41079833027c0107942c079016078c15078839078412078030077c3f07783e45a8274f281d052403076c3181b86804100213b82d0ee03607742e, 0x1b8c0f20b81345ac12⟩,
  ⟨12, 4, 0xa18420ee43d385c0680000020bc0a079c41079833027c0107942c079016078c15078839078412078030077c3f07783e45a8274f281d052403076c3180a06804100213b82d0ee03607742e, 0x1b8c0f20b81345ac12⟩,
  ⟨12, 4, 0xa18420ee43d385c0680000020bc0a079c41079833027c0107942c079016078c15078839078412078030077c3f07783e45a8274f281d052403076c3180646804100213b82d0ee03607742e, 0x1b8c0f20b81345ac12⟩,
  ⟨12, 4, 0x385c0680000020bc0a027c0107942c07901607803045a8274f281d05240304100280224807742e, 0x1b8c0f20b81345ac12⟩,
  ⟨12, 4, 0x385c0680000020bc0a83940107942c45a8274f281d052403041002802249, 0x1b8c0f20b81345ac12⟩,
  ⟨12, 4, 0x385c0680000020bc0a079833027c0107942c079016078c1507883907841207803045a8274f281d052403076c3104100280224a07742e, 0x1b8c0f20b81345ac12⟩,
  ⟨12, 4, 0x385c0680000020bc0a079833027c0107942c079016078c1507883907841207803007783e45a8274f281d052403076c3104100280224b07742e, 0x1b8c0f20b81345ac12⟩,
  ⟨12, 4, 0x385c0680000020bc0a83940107942c07901645a8274f281d05240304100280224c07742e, 0x1b8c0f20b81345ac12⟩,
  ⟨12, 4, 0x385c0680000020bc0a079833027c0107942c07901607803045a8274f281d052403076c3104100280224d07742e, 0x1b8c0f20b81345ac12⟩,
  ⟨12, 4, 0x385c0680000020bc0a079833027c0107942c07901607841207803045a8274f281d052403076c3104100280224e07742e, 0x1b8c0f20b81345ac12⟩,
  ⟨12, 4, 0x385c0680000020bc0a079833027c0107942c07901607883907841207803045a8274f281d052403076c3104100280224f07742e, 0x1b8c0f20b81345ac12⟩,
  ⟨12, 4, 0x385c0680000020bc0a83940107942c45a8274f281d05240304100280225007742e, 0x1b8c0f20b81345ac12⟩,
  ⟨12, 4, 0xee43d385c0680000020bc0a83940107942c45a8274f281d05240304100213b82d0ee036802251, 0x1b8c0f20b81345ac12⟩,
  ⟨12, 4, 0x385c0680000020bc0a027c0107942c07901607803045a8274f281d052403076c3104100280225207742e, 0x1b8c0f20b81345ac12⟩,
  ⟨12, 4, 0x385c0680000020bc0a079833027c0107942c079016078c15078839078412078030077c3f07783e45a8274f281d052403076c3104100280225307742e, 0x1b8c0f20b81345ac12⟩,
  ⟨12, 4, 0xa18420ee43d385c0680000020bc0a079c41079833027c0107942c079016078c15078839078412078030077c3f07783e45a8274f281d052403076c3180646804100213b82d0ee03607742e, 0x1b8c0f20b81345ac12⟩,
  ⟨12, 4, 0xa18420ee43d385c0680000020bc0a079c41079833027c0107942c079016078c15078839078412078030077c3f07783e45a8274f281d052403076c3181bc6804100213b82d0ee03607742e, 0x1b8c0f20b81345ac12⟩,
  ⟨12, 4, 0xa18420ee43d385c0680000020bc0a079c41079833027c0107942c079016078c15078839078412078030077c3f07783e45a8274f281d052403076c3180686804100213b82d0ee03607742e, 0x1b8c0f20b81345ac12⟩,
  ⟨12, 4, 0xa18420ee43d385c0680000020bc0a079c41079833027c0107942c079016078c15078839078412078030077c3f07783e45a8274f281d052403076c3180686804100213b82d0ee03607742e, 0x1b8c0f20b81345ac12⟩,
  ⟨12, 4, 0xa18420ee43d385c0680000020bc0a079c41079833027c0107942c079016078c15078839078412078030077c3f07783e45a8274f281d052403076c3180686804100213b82d0ee03607742e, 0x1b8c0f20b81345ac12⟩]

end JsxDetect.Automaton
